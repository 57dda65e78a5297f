import DesiredState.Files.Tree

/-!
# The usual files

Around the working directory there are directories, devices, programs and a few
files that are found on every system.

## Main definitions

* `usualPrograms` — the names of the programs.
* `FileTree.usual` — the tree with an empty working directory.
-/

namespace DesiredState

/-- The path of the working directory. -/
def workingDirectory : String := "/tmp/.tmpwork00"

/-- The directories that are always there. -/
def usualDirectories : List String :=
  ["/boot", "/dev/fd", "/dev/shm", "/etc", "/home", "/media", "/mnt", "/opt", "/proc/self",
    "/root", "/run", "/srv", "/sys", "/tmp", "/usr/bin", "/usr/games", "/usr/include", "/usr/lib",
    "/usr/lib64", "/usr/local/bin", "/usr/local/lib", "/usr/local/sbin", "/usr/sbin",
    "/usr/share", "/usr/src", "/var/cache", "/var/lib", "/var/log", "/var/spool", "/var/tmp"]

/-- The modes of those directories whose mode is their own. -/
def usualModes : List (String × Nat) :=
  [("/dev/shm", 0o1777), ("/proc", 0o555), ("/root", 0o700), ("/sys", 0o555), ("/tmp", 0o1777),
    ("/var/tmp", 0o1777)]

/-- The links that are always there, with their targets. -/
def usualLinks : List (String × String) :=
  [("/bin", "usr/bin"), ("/sbin", "usr/sbin"), ("/lib", "usr/lib"), ("/lib64", "usr/lib64"),
    ("/proc/self/fd", "/dev/fd"), ("/usr/bin/sh", "dash"), ("/usr/bin/awk", "mawk"),
    ("/usr/bin/nawk", "mawk"), ("/var/run", "/run"), ("/var/lock", "/run/lock")]

/-- The devices that are always there. -/
def usualDevices : List (String × Device) :=
  [("/dev/null", .null), ("/dev/zero", .zero), ("/dev/full", .full), ("/dev/random", .random),
    ("/dev/urandom", .random), ("/dev/tty", .terminal), ("/dev/stdin", .stream 0),
    ("/dev/stdout", .stream 1), ("/dev/stderr", .stream 2)] ++
    (List.range 10).map fun n => ("/dev/fd/" ++ String.ofList (Nat.toDigits 10 n), .stream n)

/-- The names of the programs that are always there. -/
def usualPrograms : List String :=
  ["[", "arch", "b2sum", "base32", "base64", "basename", "basenc", "bash", "cat", "chgrp",
    "chmod", "chown", "cksum", "cmp", "comm", "cp", "csplit", "cut", "dash", "date", "dd", "df",
    "diff", "dir", "dircolors", "dirname", "du", "echo", "egrep", "env", "expand", "expr",
    "factor", "false", "fgrep", "find", "flock", "fmt", "fold", "getopt", "grep", "groups",
    "gzip", "head", "hostid", "hostname", "id", "install", "join", "kill", "link", "ln",
    "logname", "ls", "mawk", "md5sum", "mkdir", "mkfifo", "mknod", "mktemp", "mv", "nice", "nl",
    "nohup", "nproc", "numfmt", "od", "paste", "pathchk", "perl", "pinky", "pr", "printenv",
    "printf", "ps", "ptx", "pwd", "readlink", "realpath", "rev", "rm", "rmdir", "run-parts",
    "sed", "seq", "setsid", "sha1sum", "sha224sum", "sha256sum", "sha384sum", "sha512sum",
    "shred", "shuf", "sleep", "sort", "split", "stat", "stdbuf", "stty", "sum", "sync", "tac",
    "tail", "tar", "tee", "test", "timeout", "touch", "tr", "true", "truncate", "tsort", "tty",
    "uname", "unexpand", "uniq", "unlink", "users", "vdir", "wc", "which", "who", "whoami",
    "xargs", "yes"]

/-- The users of the system, as its list of them spells them. -/
def usualUsers : List String :=
  ["root:x:0:0:root:/root:/bin/bash", "daemon:x:1:1:daemon:/usr/sbin:/usr/sbin/nologin",
    "bin:x:2:2:bin:/bin:/usr/sbin/nologin", "sys:x:3:3:sys:/dev:/usr/sbin/nologin",
    "sync:x:4:65534:sync:/bin:/bin/sync", "games:x:5:60:games:/usr/games:/usr/sbin/nologin",
    "man:x:6:12:man:/var/cache/man:/usr/sbin/nologin",
    "lp:x:7:7:lp:/var/spool/lpd:/usr/sbin/nologin",
    "mail:x:8:8:mail:/var/mail:/usr/sbin/nologin",
    "news:x:9:9:news:/var/spool/news:/usr/sbin/nologin",
    "uucp:x:10:10:uucp:/var/spool/uucp:/usr/sbin/nologin",
    "proxy:x:13:13:proxy:/bin:/usr/sbin/nologin",
    "www-data:x:33:33:www-data:/var/www:/usr/sbin/nologin",
    "backup:x:34:34:backup:/var/backups:/usr/sbin/nologin",
    "list:x:38:38:Mailing List Manager:/var/list:/usr/sbin/nologin",
    "irc:x:39:39:ircd:/run/ircd:/usr/sbin/nologin",
    "_apt:x:42:65534::/nonexistent:/usr/sbin/nologin",
    "nobody:x:65534:65534:nobody:/nonexistent:/usr/sbin/nologin"]

/-- The home directory of a user. -/
def homeOf? (user : String) : Option String :=
  usualUsers.findSome? fun line =>
    match (splitAtChar ':' line.toList).map String.ofList with
    | [name, _, _, _, _, home, _] => if name = user then some home else none
    | _ => none

/-- The tree with an empty working directory. -/
def FileTree.usual : FileTree :=
  let tree : FileTree := ⟨#[freshNode (.directory 0 [])], 0⟩
  let tree := (workingDirectory :: usualDirectories).foldl
    (fun tree path => tree.put path (.directory 0 [])) tree
  let tree := usualLinks.foldl (fun tree (path, target) => tree.put path (.link target)) tree
  let tree := usualDevices.foldl (fun tree (path, d) => tree.put path (.device d)) tree
  let tree := usualPrograms.foldl
    (fun tree name => tree.put ("/usr/bin/" ++ name) (.program name)) tree
  let tree := tree.put "/etc/passwd"
    (.octets (unlines (usualUsers.map fun line => octetsOf line.toList)))
  let tree := usualModes.foldl (fun tree (path, mode) =>
    match tree.find path with
    | .ok id => tree.change id fun n => { n with mode := mode }
    | .error _ => tree) tree
  { tree with working := ((tree.find workingDirectory).toOption).getD 0 }

end DesiredState
