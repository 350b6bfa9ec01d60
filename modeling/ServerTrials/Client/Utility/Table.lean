import ServerTrials.Client.Utility.Calendar
import ServerTrials.Client.Utility.Checking
import ServerTrials.Client.Utility.Condition
import ServerTrials.Client.Utility.Dump
import ServerTrials.Client.Utility.Editor.Run
import ServerTrials.Client.Utility.Fields
import ServerTrials.Client.Utility.Finding
import ServerTrials.Client.Utility.Formatting
import ServerTrials.Client.Utility.Numbers
import ServerTrials.Client.Utility.Places
import ServerTrials.Client.Utility.Report.Run
import ServerTrials.Client.Utility.Search
import ServerTrials.Client.Utility.Sleep
import ServerTrials.Client.Utility.Surroundings

/-!
The programs of a machine by their names.
-/

namespace ServerTrials.Client.Utility

/-- The program of that name. -/
def program? : String → Option Program
  | "[" => some (Condition.program true)
  | "arch" => some (saying "" "x86_64")
  | "awk" | "mawk" => some Report.program
  | "base64" => some base64
  | "basename" => some basename
  | "cat" => some cat
  | "chmod" => some chmod
  | "cksum" => some cksum
  | "cmp" => some cmp
  | "comm" => some comm
  | "cp" => some cp
  | "cut" => some cut
  | "date" => some date
  | "dd" => some dd
  | "diff" => some diff
  | "dirname" => some dirname
  | "echo" => some echoProgram
  | "egrep" => some (withReader ({ · with name := "grep" }) (grep 'E'))
  | "expand" => some expand
  | "expr" => some expr
  | "factor" => some factor
  | "false" => some (leave 1)
  | "fgrep" => some (withReader ({ · with name := "grep" }) (grep 'F'))
  | "find" => some find
  | "fold" => some fold
  | "grep" => some (grep 'G')
  | "head" => some head
  | "hostname" => some (saying "fsi" "localhost")
  | "id" => some userNumbers
  | "ln" => some ln
  | "ls" => some ls
  | "md5sum" => some (digest ⟨"MD5", Digest.four⟩)
  | "mkdir" => some mkdir
  | "mktemp" => some mktemp
  | "mv" => some mv
  | "nl" => some nl
  | "nproc" => some (saying "" "1")
  | "od" => some od
  | "paste" => some paste
  | "printenv" => some printenv
  | "printf" => some printfProgram
  | "pwd" => some workingDirectory
  | "readlink" => some readlink
  | "realpath" => some realpath
  | "rev" => some rev
  | "rm" => some rm
  | "rmdir" => some rmdir
  | "sed" => some Editor.program
  | "seq" => some seq
  | "sha1sum" => some (digest ⟨"SHA1", Digest.five⟩)
  | "sha256sum" => some (digest ⟨"SHA256", Digest.eight⟩)
  | "sleep" => some sleep
  | "sort" => some sort
  | "stat" => some stat
  | "stty" => some stty
  | "sum" => some sum
  | "sync" | "true" => some (leave 0)
  | "tac" => some tac
  | "tail" => some tail
  | "tee" => some tee
  | "test" => some (Condition.program false)
  | "touch" => some touch
  | "tr" => some tr
  | "tty" => some tty
  | "uname" => some uname
  | "uniq" => some uniq
  | "wc" => some wc
  | "which" => some which
  | "whoami" => some whoami
  | "yes" => some yes
  | _ => none

end ServerTrials.Client.Utility
