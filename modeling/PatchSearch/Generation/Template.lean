import PatchSearch.Text.Search

namespace PatchSearch

inductive Tag where
  | context
  | previous
  | error
  | count
  | destination
  | project
deriving Repr, DecidableEq

namespace Tag

/-- All tags, in the order in which they are replaced. -/
def all : List Tag := [.context, .previous, .error, .count, .destination, .project]

def name : Tag → String
  | .context => "CONTEXT"
  | .previous => "PREVIOUS"
  | .error => "ERROR"
  | .count => "COUNT"
  | .destination => "DESTINATION"
  | .project => "PROJECT"

def token (t : Tag) : String :=
  "\x7b\x7b" ++ t.name ++ "\x7d\x7d"

end Tag

/-- The values of the tags; a tag without a value has the empty text. -/
def Tag.Values := Tag → String

def Tag.Values.none : Tag.Values := fun _ => ""

def Tag.Values.set (values : Tag.Values) (tag : Tag) (value : String) : Tag.Values :=
  fun t => if t = tag then value else values t

structure Template where
  text : String
deriving Repr, DecidableEq

namespace Template

def tags (t : Template) : List Tag :=
  Tag.all.filter fun tag => Text.contains t.text tag.token

/-- The template with its tags replaced, one tag after the other. -/
def render (t : Template) (values : Tag.Values) : String :=
  t.tags.foldl (fun text tag => Text.replaced text tag.token (values tag)) t.text

/-- For the first step and after a candidate that passed. -/
def regular : Template := ⟨
  "You are helping to make " ++ Tag.project.token ++ " faster without changing its behaviour.\n" ++
  Tag.context.token ++ "\n" ++
  "Give " ++ Tag.count.token ++ " different Java implementations of the following statement that " ++
  "could be used in its place and would run faster:\n\n" ++
  "```java\n" ++ Tag.destination.token ++ "\n```\n\n" ++
  "Each implementation must be a drop-in replacement for the statement above. " ++
  "Put each implementation in its own fenced ```java block and write nothing " ++
  "else inside the blocks.\n"⟩

/-- After a candidate that did not compile or did not pass its tests. -/
def afterFailure : Template := ⟨
  "You are helping to make " ++ Tag.project.token ++ " faster without changing its behaviour.\n" ++
  Tag.context.token ++ "\n" ++
  "Your previous suggestion produced this program:\n\n" ++
  "```java\n" ++ Tag.previous.token ++ "\n```\n\n" ++
  "which failed with:\n\n" ++ Tag.error.token ++ "\n\n" ++
  "Avoid that mistake. Give " ++ Tag.count.token ++ " different Java implementations of the " ++
  "following statement that could be used in its place and would run faster:\n\n" ++
  "```java\n" ++ Tag.destination.token ++ "\n```\n\n" ++
  "Put each implementation in its own fenced ```java block and write nothing " ++
  "else inside the blocks.\n"⟩

end Template

end PatchSearch
