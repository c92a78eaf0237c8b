import PatchSearch.Shell.Utility.Awk
import PatchSearch.Shell.Utility.Compare
import PatchSearch.Shell.Utility.Fields
import PatchSearch.Shell.Utility.Find
import PatchSearch.Shell.Utility.Grep
import PatchSearch.Shell.Utility.Lines
import PatchSearch.Shell.Utility.Listing
import PatchSearch.Shell.Utility.Moving
import PatchSearch.Shell.Utility.Numbers
import PatchSearch.Shell.Utility.Pieces
import PatchSearch.Shell.Utility.Sed
import PatchSearch.Shell.Utility.Sort
import PatchSearch.Shell.Utility.System
import PatchSearch.Shell.Utility.Translate

namespace PatchSearch.Shell

def textUtility? : String → Option Utility
  | "cat" => some cat
  | "head" => some head
  | "tail" => some tail
  | "tac" => some tac
  | "rev" => some rev
  | "nl" => some nl
  | "wc" => some wc
  | "tee" => some tee
  | "fold" => some fold
  | "expand" => some expand
  | "unexpand" => some unexpand
  | "cut" => some cut
  | "paste" => some paste
  | "comm" => some comm
  | "join" => some join
  | "uniq" => some uniq
  | "sort" => some sort
  | "tr" => some tr
  | "grep" => some grep
  | "egrep" => some (grepWith ["-E"])
  | "fgrep" => some (grepWith ["-F"])
  | "sed" => some sed
  | "awk" => some awk
  | "mawk" => some awk
  | "cmp" => some cmp
  | "diff" => some diff
  | _ => none

def fileUtility? : String → Option Utility
  | "mkdir" => some mkdir
  | "rmdir" => some rmdir
  | "touch" => some touch
  | "rm" => some rm
  | "unlink" => some rm
  | "truncate" => some truncate
  | "mktemp" => some mktemp
  | "mv" => some mv
  | "cp" => some cp
  | "ln" => some ln
  | "ls" => some ls
  | "chmod" => some chmod
  | "stat" => some stat
  | "basename" => some basename
  | "dirname" => some dirname
  | "realpath" => some realpath
  | "readlink" => some readlink
  | "pwd" => some pwd
  | "find" => some find
  | "xargs" => some xargs
  | _ => none

def plainUtility? : String → Option Utility
  | "seq" => some seq
  | "yes" => some yes
  | "expr" => some expr
  | "echo" => some echo
  | "printf" => some printf
  | "split" => some split
  | "dd" => some dd
  | "factor" => some factor
  | _ => none

def utility? (name : String) : Option Utility :=
  [textUtility?, fileUtility?, plainUtility?, systemUtility?, sumUtility?].findSome? fun table => table name

end PatchSearch.Shell
