import PatchSearch.Proofs.Statement.Readable
import PatchSearch.Proofs.Tree.Attach

namespace PatchSearch

/-- Reading goes from the text `cs` on to its end part `rest`. -/
def Reading.Reaches (r : Reading) (cs : List Char) (s : Reading) (rest : List Char) : Prop :=
  ∃ xs, lexemes cs = xs ++ lexemes rest ∧ xs.foldlM Reading.step r = .ok s

namespace Reading

variable {r s t : Reading} {cs ds rest : List Char}

theorem Reaches.refl (r : Reading) (cs : List Char) : r.Reaches cs r cs :=
  ⟨[], rfl, rfl⟩

theorem Reaches.trans (h : r.Reaches cs s ds) (h' : s.Reaches ds t rest) : r.Reaches cs t rest := by
  obtain ⟨xs, hx, hr⟩ := h
  obtain ⟨ys, hy, hs⟩ := h'
  refine ⟨xs ++ ys, by rw [hx, hy, List.append_assoc], ?_⟩
  rw [List.foldlM_append, hr]
  exact hs

theorem reaches_of_joined {xs : List Lexeme} (h : Joined xs rest)
    (hs : xs.foldlM Reading.step r = .ok s) : r.Reaches (xs.flatMap Lexeme.text ++ rest) s rest :=
  ⟨xs, h.lexemes, hs⟩

theorem reaches_of_reads {x : Lexeme} (h : x.Reads rest) (hs : r.step x = .ok s) :
    r.Reaches (x.text ++ rest) s rest := by
  refine ⟨[x], h.lexemes, ?_⟩
  rw [List.foldlM_cons, hs]
  rfl

end Reading

/-- A draft can be read again between any two statements. -/
theorem Draft.replay {xs : List Lexeme} {p : Pending} (h : Draft xs p) {r : Reading} (hr : r.Idle) :
    ∃ s, xs.foldlM Reading.step r = .ok s ∧ s.pending = p ∧ s.items = r.items ∧
      s.outer = r.outer := by
  have prolong : ∀ {xs : List Lexeme} {p q : Pending} {x : Lexeme}, p.take? x = some q →
      (∃ s, xs.foldlM Reading.step r = .ok s ∧ s.pending = p ∧ s.items = r.items ∧
        s.outer = r.outer) →
      ∃ s, (xs ++ [x]).foldlM Reading.step r = .ok s ∧ s.pending = q ∧ s.items = r.items ∧
        s.outer = r.outer := by
    rintro xs p q x ht ⟨s, hs, rfl, hi, ho⟩
    obtain ⟨s', hs', hp', hi', ho'⟩ := Reading.step_ok_of_take? ht
    refine ⟨s', ?_, hp', hi'.trans hi, ho'.trans ho⟩
    rw [List.foldlM_append, hs]
    simp [bind, Except.bind, hs']
    rfl
  induction h with
  | nil => exact ⟨r, rfl, hr, rfl, rfl⟩
  | space _ hne hn ih => exact prolong (congrArg some (Pending.space_eq_push hne hn)) ih
  | solid _ _ ht ih => exact prolong ht ih

/-- The text gives these statements wherever a statement can begin, whatever follows it. -/
def Yields (cs : List Char) (ss : List Statement) : Prop :=
  ∀ (r : Reading) (rest : List Char), r.Idle → ∃ s, r.Reaches (cs ++ rest) s rest ∧ s.Idle ∧
    s.items = ss.reverse ++ r.items ∧ s.outer = r.outer

theorem yields_nil : Yields [] [] :=
  fun r rest hr => ⟨r, .refl r rest, hr, rfl, rfl⟩

theorem Yields.append {cs ds : List Char} {ss ts : List Statement} (h : Yields cs ss)
    (h' : Yields ds ts) : Yields (cs ++ ds) (ss ++ ts) := by
  intro r rest hr
  obtain ⟨s, hs, hidle, hi, ho⟩ := h r (ds ++ rest) hr
  obtain ⟨t, ht, hidle', hi', ho'⟩ := h' s rest hidle
  refine ⟨t, ?_, hidle', by simp [hi', hi], ho'.trans ho⟩
  rw [List.append_assoc]
  exact hs.trans ht

theorem yields_blank {c : Char} (hc : Text.isBlank c = true) : Yields [c] [] := by
  intro r rest hr
  have hp : r.pending.space = .empty := by
    rw [Reading.Idle] at hr
    rw [hr]
    rfl
  refine ⟨r.space (.blank c), Reading.reaches_of_reads ⟨c, rest, .blank hc⟩ rfl,
    (r.space_pending _).trans hp, r.space_items _, r.space_outer _⟩

theorem yields_blanks {cs : List Char} (h : ∀ c ∈ cs, Text.isBlank c = true) : Yields cs [] := by
  induction cs with
  | nil => exact yields_nil
  | cons c cs ih =>
    exact (yields_blank (h c (by simp))).append (ih fun d hd => h d (List.mem_cons_of_mem c hd))

/-- Semicolons and braces are lexemes of their own. -/
theorem reads_mark {c : Char} (h : c = ';' ∨ c = '\x7b' ∨ c = '\x7d') (rest : List Char) :
    (Lexeme.mark c).Reads rest := by
  have hq : ¬Lexeme.IsQuote c := by
    rintro (rfl | rfl) <;> rcases h with h | h | h <;> exact absurd h (by decide)
  have hs : c ≠ '/' := by rcases h with rfl | rfl | rfl <;> decide
  have hb : Text.isBlank c = false := by rcases h with rfl | rfl | rfl <;> rfl
  exact ⟨c, rest, .mark hq (fun he => absurd he hs) hb⟩

theorem yields_line {text : List Char} (h : IsLine text) :
    Yields text [.simple (String.ofList text)] := by
  obtain ⟨xs, p, hd, hj, hb, hz, rfl⟩ := h
  intro r rest hr
  obtain ⟨s, hs, rfl, hi, ho⟩ := hd.replay hr
  obtain ⟨t, ht, hidle, ho', hi'⟩ := Reading.semicolon_ok hb hz
  refine ⟨t, ?_, hidle, ?_, ho'.trans ho⟩
  · have hline := Reading.reaches_of_joined (hd.joined_head hj : Joined xs (';' :: rest)) hs
    rw [← hd.collected] at hline
    rw [List.append_assoc]
    exact hline.trans (Reading.reaches_of_reads (reads_mark (Or.inl rfl) rest) ht)
  · rw [hi', hi]
    exact congrArg (fun cs => [Statement.simple (String.ofList cs)] ++ r.items) hd.trim_line

/-- The printed opening of a block is read as one. -/
theorem reaches_opening {header : String} (h : IsHeader header.toList) {r : Reading} (hr : r.Idle)
    (rest : List Char) :
    ∃ s offset, r.Reaches ((Statement.opening header).toList ++ rest) s rest ∧ s.Idle ∧
      s.items = [] ∧ s.outer = ⟨r.items, header, offset⟩ :: r.outer := by
  obtain ⟨xs, p, hd, hj, hp, hs, ht⟩ := h
  by_cases hc : p.collected = []
  · have hempty : header = "" := by rwa [hc, List.reverse_nil, String.toList_eq_nil_iff] at ht
    obtain ⟨s, hok, hidle, hi, ho⟩ := Reading.openBrace_ok (r := r) (by rw [hr]; decide)
    have htext : r.text = [] := by rw [Reading.text, (Reading.idle_iff.mp hr).1]; rfl
    refine ⟨s, r.offset, ?_, hidle, hi, by rw [ho, htext, hempty, String.ofList_nil]⟩
    rw [hempty]
    exact Reading.reaches_of_reads (reads_mark (Or.inr (Or.inl rfl)) rest) hok
  · have hd' := hd.space hc hs
    obtain ⟨s, hread, hpend, hi, ho⟩ := hd'.replay hr
    obtain ⟨t, hok, hidle, hi', ho'⟩ :=
      Reading.openBrace_ok (r := s) (by rw [hpend, Pending.inExpression_push_space, hp])
    have htext : s.text = header.toList := by
      have hcol : s.collected = (p.push [' ']).collected := congrArg Pending.collected hpend
      rw [Reading.text, hcol, Pending.collected_push_space, Text.trim_append_blank rfl,
        hd.trim_collected hs, ht]
    refine ⟨t, s.offset, ?_, hidle, hi', by rw [ho', htext, String.ofList_toList, hi, ho]⟩
    have hne : header ≠ "" := by
      rintro rfl
      exact hc (by simpa using ht.symm)
    have hj' : Joined (xs ++ [.blank ' ']) ('\x7b' :: rest) :=
      joined_append.mpr ⟨hd.joined_blank hj _, joined_singleton.mpr ⟨' ', _, Lexeme.Next.blank rfl⟩⟩
    have htext' : (Statement.opening header).toList ++ rest =
        (xs ++ [Lexeme.blank ' ']).flatMap Lexeme.text ++ '\x7b' :: rest := by
      rw [← hd'.collected, Pending.collected_push_space, ← ht, Statement.opening, if_neg hne]
      simp
    rw [htext']
    exact (Reading.reaches_of_joined hj' hread).trans
      (Reading.reaches_of_reads (reads_mark (Or.inr (Or.inl rfl)) rest) hok)

theorem yields_block {header : String} {body : List Char} {ss : List Statement}
    (h : IsHeader header.toList) (hb : Yields body ss) :
    Yields ((Statement.opening header).toList ++ body ++ ['\x7d']) [.block header ss] := by
  intro r rest hr
  obtain ⟨s, offset, hs, hidle, hi, ho⟩ := reaches_opening h hr (body ++ '\x7d' :: rest)
  obtain ⟨t, ht, hidle', hi', ho'⟩ := hb s ('\x7d' :: rest) hidle
  obtain ⟨u, hu, hidle'', ho'', hi''⟩ := Reading.closeBrace_ok hidle' (ho'.trans ho)
  refine ⟨u, ?_, hidle'', by simp [hi'', hi', hi], ho''⟩
  have hclose := Reading.reaches_of_reads (reads_mark (Or.inr (Or.inr rfl)) rest) hu
  simpa [Lexeme.text] using (hs.trans ht).trans hclose

/-- Between two statements of the outermost list a text can end. -/
theorem Reading.Idle.finish {r : Reading} (h : r.Idle) (ho : r.outer = []) :
    r.finish = .ok r.items.reverse := by
  obtain ⟨hc, hb, hz⟩ := idle_iff.mp h
  have htext : r.text = [] := by rw [text, hc]; rfl
  simp only [Reading.finish, hb, ho, hz, Nat.lt_irrefl, if_false, noTrailing, htext, if_true]
  rfl

/-- A text that yields statements is read as them. -/
theorem Yields.parseAll {text : String} {ss : List Statement} (h : Yields text.toList ss) :
    Statement.parseAll text = .ok ss := by
  obtain ⟨s, ⟨xs, hx, hr⟩, hidle, hi, ho⟩ := h Reading.start [] rfl
  have hlex : lexemes text.toList = xs := by simpa [lexemes] using hx
  have hfin : s.finish = .ok ss := by
    rw [hidle.finish ho, hi]
    simp [Reading.start]
  rw [Statement.parseAll, hlex, hr]
  exact hfin

namespace Statement

theorem toList_indented (depth : Nat) (line : String) :
    (indented depth line).toList = List.replicate (4 * depth) ' ' ++ line.toList ++ ['\n'] := by
  simp [indented]

theorem yields_indentation (depth : Nat) : Yields (List.replicate (4 * depth) ' ') [] := by
  apply yields_blanks
  intro c hc
  rw [List.eq_of_mem_replicate hc]
  rfl

theorem yields_printAll {ss : List Statement} {depth : Nat}
    (h : ∀ s ∈ ss, Yields (s.print depth).toList [s]) : Yields (printAll depth ss).toList ss := by
  induction ss with
  | nil => exact yields_nil
  | cons s ss ih =>
    rw [printAll, String.toList_append]
    exact (h s (by simp)).append (ih fun t ht => h t (List.mem_cons_of_mem s ht))

/-- A printed statement is indentation, a text that yields the statement, and the end of the line. -/
def PrintsAs (s : Statement) (depth : Nat) : Prop :=
  ∃ cs c, (s.print depth).toList = List.replicate (4 * depth) ' ' ++ (cs ++ [c]) ++ ['\n'] ∧
    Text.isBlank c = false ∧ Yields (cs ++ [c]) [s]

theorem PrintsAs.yields {s : Statement} {depth : Nat} (h : s.PrintsAs depth) :
    Yields (s.print depth).toList [s] := by
  obtain ⟨cs, c, ht, _, hy⟩ := h
  rw [ht]
  simpa using ((yields_indentation depth).append hy).append (yields_blank (c := '\n') rfl)

theorem Readable.printsAs {s : Statement} (h : s.Readable) (depth : Nat) : s.PrintsAs depth := by
  induction h generalizing depth with
  | @simple text hl =>
    have hy := yields_line hl
    obtain ⟨xs, p, _, _, _, _, ht⟩ := hl
    refine ⟨p.collected.reverse, ';', ?_, rfl, ?_⟩
    · rw [print, toList_indented, ht]
    · rwa [String.ofList_toList, ht] at hy
  | @block header body hh hb ih =>
    have hbody : Yields ('\n' :: (printAll (depth + 1) body).toList ++ List.replicate (4 * depth) ' ')
        body := by
      have hall := yields_printAll fun s hs => (ih s hs (depth + 1)).yields
      simpa using ((yields_blank (c := '\n') rfl).append hall).append (yields_indentation depth)
    refine ⟨_, '\x7d', ?_, rfl, yields_block hh hbody⟩
    simp [print, toList_indented]

/-- A readable statement is read back from its rendering. -/
theorem Readable.parse_render {s : Statement} (h : s.Readable) : parse s.render = .ok s := by
  obtain ⟨cs, c, ht, hc, hy⟩ := h.printsAs 0
  have hr : s.render.toList = cs ++ [c] := by
    have hprint : (s.print 0).toList = (cs ++ [c]) ++ ['\n'] := by simpa using ht
    rw [render, Text.trimmedEnd, String.toList_ofList, hprint, Text.trimEnd_append_blank rfl,
      Text.trimEnd_append_mark hc]
  have hall : parseAll s.render = .ok [s] := by
    apply Yields.parseAll
    rwa [hr]
  rw [parse, hall]
  rfl

theorem parseAll_renderAll {ss : List Statement} (h : ∀ s ∈ ss, s.Readable) :
    parseAll (renderAll ss) = .ok ss :=
  (yields_printAll fun s hs => ((h s hs).printsAs 0).yields).parseAll

theorem isHeader_nil : IsHeader [] :=
  ⟨[], .empty, .nil, trivial, by decide, by simp [Pending.empty], rfl⟩

/-- A text that has to take the place of one statement gives a readable one. -/
theorem readable_of_parse {text : String} {s : Statement} (h : parse text = .ok s) : s.Readable := by
  obtain ⟨ss, hp, h⟩ := exists_ok_of_bind h
  have hs := readable_of_parseAll hp
  match ss, h with
  | [t], h =>
    obtain rfl : t = s := Except.ok.inj h
    exact hs t (by simp)
  | t :: u :: ss, h =>
    obtain rfl : .block "" (t :: u :: ss) = s := Except.ok.inj h
    exact .block isHeader_nil hs

/-- Reading the rendering of what was read from a text gives the same statements, for the whole text
and for a text that takes the place of one statement. -/
theorem parse_render_roundtrip (text : String) :
    (∀ items, parseAll text = .ok items →
      parseAll (SourceTree.ofItems items).render = .ok items) ∧
    (∀ s, parse text = .ok s → parse s.render = .ok s) := by
  refine ⟨fun items h => ?_, fun s h => (readable_of_parse h).parse_render⟩
  rw [SourceTree.render_ofItems]
  exact parseAll_renderAll (readable_of_parseAll h)

/-- A fragment with a comment, a brace in a string and a lambda; on its own it is a bare block. -/
theorem parse_render_roundtrip_fragment :
    let text := "a /* b */ = \x22\x7d\x22; if (c) \x7b // d;\n\trun(() -> \x7b e(); \x7d); \x7d"
    let items := [.simple "a = \x22\x7d\x22;", .block "if (c)" [.simple "run(() -> \x7b e(); \x7d);"]]
    parseAll text = .ok items ∧ parseAll (SourceTree.ofItems items).render = .ok items ∧
      parse text = .ok (.block "" items) ∧
      parse (Statement.block "" items).render = .ok (.block "" items) := by
  intro text items
  have hall : parseAll text = .ok items := by decide +kernel
  have hone : parse text = .ok (.block "" items) := by decide +kernel
  exact ⟨hall, (parse_render_roundtrip text).1 items hall, hone, (parse_render_roundtrip text).2 _ hone⟩

end Statement

end PatchSearch
