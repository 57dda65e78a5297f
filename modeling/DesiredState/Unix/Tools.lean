import DesiredState.Unix.Tools.Awk.Run
import DesiredState.Unix.Tools.Blocks
import DesiredState.Unix.Tools.Columns
import DesiredState.Unix.Tools.Comparing
import DesiredState.Unix.Tools.Counting
import DesiredState.Unix.Tools.Digests
import DesiredState.Unix.Tools.Dumping
import DesiredState.Unix.Tools.Editing.Run
import DesiredState.Unix.Tools.Evaluating
import DesiredState.Unix.Tools.Grep
import DesiredState.Unix.Tools.Launching
import DesiredState.Unix.Tools.Lines
import DesiredState.Unix.Tools.Listing
import DesiredState.Unix.Tools.Making
import DesiredState.Unix.Tools.Moving
import DesiredState.Unix.Tools.Numbers
import DesiredState.Unix.Tools.Paths
import DesiredState.Unix.Tools.Sorting
import DesiredState.Unix.Tools.Surroundings
import DesiredState.Unix.Tools.Testing
import DesiredState.Unix.Tools.Translating
import DesiredState.Unix.Tools.Writing

/-!
# Programs

The programs that are there from the start, by their names.

## Main definitions

* `Tools.tool?` — the program of a name.
-/

namespace DesiredState.Tools

open Shell

/-- The program of a name, if it runs no other programs. -/
def plainTool? : String → Option Tool
  | "[" => some runBracket
  | "arch" => some (runFact "x86_64")
  | "b2sum" => some (runDigest .blake2b)
  | "base32" => some (runBase .base32)
  | "base64" => some (runBase .base64)
  | "basename" => some runBasename
  | "basenc" => some runBasenc
  | "cat" => some runCat
  | "chgrp" => some (runChown true)
  | "chmod" => some runChmod
  | "chown" => some (runChown false)
  | "cksum" => some runCksum
  | "comm" => some runComm
  | "cp" => some runCp
  | "cut" => some runCut
  | "date" => some runDate
  | "dd" => some runDd
  | "dir" => some (runLsAs ["-C", "-b"])
  | "dirname" => some runDirname
  | "echo" => some runEcho
  | "egrep" => some (runGrepWith "-E")
  | "expand" => some runExpand
  | "expr" => some runExpr
  | "factor" => some runFactor
  | "false" => some (runStatus 1)
  | "fgrep" => some (runGrepWith "-F")
  | "fold" => some runFold
  | "grep" => some runGrep
  | "groups" => some runGroups
  | "head" => some runHead
  | "hostid" => some (runFact "007f0100")
  | "hostname" => some runHostname
  | "id" => some runId
  | "install" => some runInstall
  | "join" => some runJoin
  | "kill" => some runKill
  | "link" => some runLink
  | "ln" => some runLn
  | "logname" => some runLogname
  | "ls" => some runLs
  | "md5sum" => some (runDigest .md5)
  | "mkdir" => some runMkdir
  | "mkfifo" => some runMkfifo
  | "mktemp" => some runMktemp
  | "mv" => some runMv
  | "nl" => some runNl
  | "nproc" => some runNproc
  | "od" => some runOd
  | "paste" => some runPaste
  | "pathchk" => some runPathchk
  | "printenv" => some runPrintenv
  | "printf" => some runPrintf
  | "pwd" => some runPwd
  | "readlink" => some runReadlink
  | "realpath" => some runRealpath
  | "rev" => some runRev
  | "rm" => some runRm
  | "rmdir" => some runRmdir
  | "seq" => some runSeq
  | "sha1sum" => some (runDigest .sha1)
  | "sha224sum" => some (runDigest .sha224)
  | "sha256sum" => some (runDigest .sha256)
  | "sha384sum" => some (runDigest .sha384)
  | "sha512sum" => some (runDigest .sha512)
  | "shuf" => some runShuf
  | "sleep" => some runSleep
  | "sort" => some runSort
  | "stat" => some runStat
  | "sum" => some runSum
  | "sync" => some runSync
  | "tac" => some runTac
  | "tail" => some runTail
  | "tee" => some runTee
  | "test" => some runTest
  | "touch" => some runTouch
  | "tr" => some runTr
  | "true" => some (runStatus 0)
  | "truncate" => some runTruncate
  | "tsort" => some runTsort
  | "tty" => some runTty
  | "uname" => some runUname
  | "unexpand" => some runUnexpand
  | "uniq" => some runUniq
  | "unlink" => some runUnlink
  | "users" => some runNobody
  | "vdir" => some (runLsAs ["-l", "-b"])
  | "wc" => some runWc
  | "which" => some runWhich
  | "who" => some runNobody
  | "whoami" => some (runFact "root")
  | "yes" => some runYes
  | _ => none

/-- The program of a name, which may run others. -/
def tool? (run : Runner) : String → Option Tool
  | "env" => some (runEnv run)
  | "flock" => some (runFlock run)
  | "mawk" => some (Awk.runAwk run)
  | "nice" => some (runNice run)
  | "nohup" => some (runNohup run)
  | "sed" => some (runSed run)
  | "setsid" => some (runSetsid run)
  | "stdbuf" => some (runStdbuf run)
  | "timeout" => some (runTimeout run)
  | "xargs" => some (runXargs run)
  | name => plainTool? name

end DesiredState.Tools
