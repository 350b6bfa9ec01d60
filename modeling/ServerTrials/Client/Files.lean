import ServerTrials.Client.ByteText

/-!
The files of a client machine.

A file tree is a list of absolute paths, each with what stands there. A path is resolved against a
working directory; `.` and `..` are taken away, and directories that only point into another one are
followed.
-/

namespace ServerTrials.Client

/-- A device among the files. -/
inductive Device where
  | null
  | zero
  | full
  deriving DecidableEq, Repr

/-- What stands at a path. -/
inductive Node where
  | directory
  | file (content : String) (runs : Bool)
  | device (d : Device)
  deriving DecidableEq, Repr

/-- A file tree. -/
structure Files where
  nodes : List (String × Node)
  deriving DecidableEq, Repr

namespace Files

/-! ### Paths -/

/-- The parts of a path between slashes. -/
def parts (path : String) : List String := (path.splitOn "/").filter (· ≠ "")

/-- Takes away `.` and `..`. -/
def resolveParts (acc : List String) : List String → List String
  | [] => acc.reverse
  | "." :: ps => resolveParts acc ps
  | ".." :: ps => resolveParts (acc.drop 1) ps
  | p :: ps => resolveParts (p :: acc) ps

/-- The directories that point into another one. -/
def pointers : List (String × String) :=
  [("bin", "usr/bin"), ("sbin", "usr/sbin"), ("lib", "usr/lib"), ("lib64", "usr/lib64")]

/-- Follows a pointer at the beginning of a path. -/
def follow (ps : List String) : List String :=
  match ps with
  | p :: rest =>
    match pointers.find? (·.1 == p) with
    | some (_, target) => parts target ++ rest
    | none => ps
  | [] => []

/-- The absolute path with these parts. -/
def pathOf (ps : List String) : String := "/" ++ "/".intercalate ps

/-- Whether a path is absolute. -/
def isAbsolute (path : String) : Bool := path.toList.head? == some '/'

/-- The absolute path that a path stands for in a working directory, with pointers kept. -/
def absolute (cwd path : String) : String :=
  pathOf (resolveParts [] (if isAbsolute path then parts path else parts cwd ++ parts path))

/-- The place in the tree that a path stands for. -/
def locate (cwd path : String) : String := pathOf (follow (parts (absolute cwd path)))

/-- The directory in which a path lies. -/
def parent (path : String) : String := pathOf ((parts path).dropLast)

/-- The last part of a path. -/
def lastPart (path : String) : String := (parts path).getLast?.getD "/"

/-! ### Looking -/

/-- What stands at an absolute path. -/
def node? (f : Files) (path : String) : Option Node := (f.nodes.find? (·.1 == path)).map (·.2)

/-- Why a path cannot be used. -/
inductive Obstacle where
  | missing
  | notDirectory
  | isDirectory
  | denied
  | exists
  | notEmpty
  deriving DecidableEq, Repr

/-- The wording of an obstacle. -/
def Obstacle.wording : Obstacle → String
  | .missing => "No such file or directory"
  | .notDirectory => "Not a directory"
  | .isDirectory => "Is a directory"
  | .denied => "Permission denied"
  | .exists => "File exists"
  | .notEmpty => "Directory not empty"

/-- Whether a way through the parts leads through something that is no directory. -/
def blocked (f : Files) (ps : List String) : Bool :=
  (List.range ps.length).any fun n =>
    match f.node? (pathOf (ps.take n)) with
    | some .directory | none => false
    | some _ => true

/-- What a path leads to, or why it leads nowhere. A slash at the end asks for a directory. -/
def find (f : Files) (cwd path : String) : Except Obstacle (String × Node) :=
  if path = "" then .error .missing
  else
    let place := locate cwd path
    match f.node? place with
    | some .directory => .ok (place, .directory)
    | some n => if path.toList.getLast? = some '/' then .error .notDirectory else .ok (place, n)
    | none => if f.blocked (parts place) then .error .notDirectory else .error .missing

/-- The names in a directory, in rising order. -/
def names (f : Files) (directory : String) : List String :=
  let depth := (parts directory).length
  let pointing := if directory = "/" then pointers.map (·.1) else []
  (pointing ++ (f.nodes.filter fun n => n.1 ≠ "/" && parent n.1 == directory && (parts n.1).length == depth + 1).map
    fun n => lastPart n.1).eraseDups.mergeSort fun a b => decide (a ≤ b)

/-! ### Changing -/

/-- The tree with something put at an absolute path. -/
def put (f : Files) (path : String) (n : Node) : Files :=
  if f.nodes.any (·.1 == path) then ⟨f.nodes.map fun e => if e.1 = path then (path, n) else e⟩
  else ⟨f.nodes ++ [(path, n)]⟩

/-- The tree without what stands at an absolute path and below it. -/
def remove (f : Files) (path : String) : Files :=
  ⟨f.nodes.filter fun e => e.1 ≠ path && !((path ++ "/").toList.isPrefixOf e.1.toList)⟩

/-- The place where a file of that path may be made or found, or why not. -/
def target (f : Files) (cwd path : String) : Except Obstacle (String × Option Node) :=
  match f.find cwd path with
  | .ok (place, .directory) => .ok (place, some .directory)
  | .ok (place, n) => .ok (place, some n)
  | .error .missing =>
    let place := locate cwd path
    if path = "" || path.toList.getLast? = some '/' then .error .missing
    else
      match f.node? (parent place) with
      | some .directory => .ok (place, none)
      | _ => .error .missing
  | .error e => .error e

/-! ### A machine's own files -/

/-- The programs that lie in `/usr/bin`. -/
def programs : List String :=
  ["[", "arch", "awk", "base64", "basename", "bash", "cat", "chmod", "cksum", "cmp", "comm", "cp",
    "cut", "dash", "date", "dd", "diff", "dirname", "echo", "egrep", "env", "expand", "expr",
    "factor", "false", "fgrep", "find", "fold", "grep", "head", "hostname", "id", "kill", "ln",
    "ls", "mawk", "md5sum", "mkdir", "mktemp", "mv", "nice", "nl", "nohup", "nproc", "od", "passwd",
    "paste", "printenv", "printf", "pwd", "readlink", "realpath", "rev", "rm", "rmdir", "sed",
    "seq", "setsid", "sh", "sha1sum", "sha256sum", "sleep", "sort", "stat", "stdbuf", "stty", "sum",
    "sync", "tac", "tail", "tee", "test", "timeout", "touch", "tr", "true", "tty", "uname", "uniq",
    "wc", "which", "whoami", "xargs", "yes"]

/-- The directories that every machine has. -/
def directories : List String :=
  ["/", "/boot", "/dev", "/dev/pts", "/dev/shm", "/etc", "/home", "/media", "/mnt", "/opt", "/proc",
    "/root", "/run", "/srv", "/sys", "/tmp", "/usr", "/usr/bin", "/usr/include", "/usr/lib",
    "/usr/lib64", "/usr/libexec", "/usr/local", "/usr/local/bin", "/usr/local/sbin", "/usr/sbin",
    "/usr/share", "/usr/src", "/var", "/var/lib", "/var/log", "/var/run", "/var/tmp"]

/-- The text files that every machine has. -/
def texts : List (String × String) :=
  [("/etc/passwd", unlines
      ["root:x:0:0:root:/root:/bin/bash", "daemon:x:1:1:daemon:/usr/sbin:/usr/sbin/nologin",
        "bin:x:2:2:bin:/bin:/usr/sbin/nologin", "sys:x:3:3:sys:/dev:/usr/sbin/nologin",
        "nobody:x:65534:65534:nobody:/nonexistent:/usr/sbin/nologin"]),
    ("/etc/group", "root:x:0:\ndaemon:x:1:\nbin:x:2:\nsys:x:3:\nnogroup:x:65534:\n"),
    ("/etc/hosts", "127.0.0.1\tlocalhost\n::1\tlocalhost ip6-localhost ip6-loopback\n"),
    ("/etc/hostname", "localhost\n"), ("/etc/host.conf", "multi on\n"), ("/etc/passwd-", ""),
    ("/etc/group-", ""), ("/etc/shadow-", ""), ("/etc/resolv.conf", "nameserver 127.0.0.1\n"),
    ("/etc/shadow", "root:*:19000:0:99999:7:::\n"), ("/etc/fstab", ""), ("/etc/profile", ""),
    ("/etc/os-release", "NAME=\"Linux\"\n"), ("/etc/shells", "/bin/sh\n/bin/bash\n"),
    ("/etc/nsswitch.conf", "hosts: files dns\n"), ("/etc/services", "stun\t3478/udp\n")]

/-- The files that every machine has. -/
def standard : Files :=
  ⟨directories.map (·, .directory) ++ texts.map (fun t => (t.1, .file t.2 false))
    ++ [("/dev/null", .device .null), ("/dev/zero", .device .zero), ("/dev/full", .device .full)]
    ++ programs.map fun p => ("/usr/bin/" ++ p, .file "" true)⟩

end Files
end ServerTrials.Client
