import DesiredState.Unix.Shell.Expansion

/-!
# Redirections

A redirection opens a stream on a file, lets it lead to where another one does, or closes
it.  A command with redirections leaves the streams as they were.

## Main definitions

* `Session.create` — the node of a file that is written, which is made if it is not there.
* `redirectStream` — a stream that leads somewhere else.
* `withStreams`, `apart` — jobs that leave the streams, or more, as they were.
-/

namespace DesiredState.Shell

/-! ## Files that are written -/

/-- A session with a new file at a place, and its node. -/
def Session.newFile (s : Session) (place : FileTree.Place) (content : FileContent) (mode : Nat) :
    Session × Nat :=
  let bits := mode - (mode &&& s.umask)
  let (files, id) := s.files.add place.directory place.name ⟨content, bits, s.clock⟩
  ({ s with files := files.change place.directory fun n => { n with modified := s.clock } }, id)

/-- The node of a file that is written, which is made if it is not there. -/
def Session.create (s : Session) (path : List Char) : Except Fault (Session × Nat) := do
  match s.findNode path true with
  | .ok id =>
      if s.files.isDirectory id then throw .isDirectory
      else pure (s, id)
  | .error .notFound =>
      if path.getLast? = some '/' && !path.isEmpty then
        if (s.place path).isOk then throw .isDirectory else throw .notFound
      else
        match s.findNode path false with
        | .ok id =>
            match s.files.content id, s.place path with
            | .link target, .ok place =>
                let place ← s.files.placeFrom place.directory target
                pure (s.newFile place (.octets []) 0o666)
            | _, _ => throw .notFound
        | .error _ => do pure (s.newFile (← s.place path) (.octets []) 0o666)
  | .error fault => throw fault

/-- A session with a file that was emptied. -/
def Session.truncate (s : Session) (id : Nat) : Session :=
  match s.files.content id with
  | .octets _ | .program _ =>
      { s with files := s.files.change id fun n =>
          { n with content := .octets [], modified := s.clock } }
  | _ => s

/-! ## Streams -/

/-- Complains about a redirection. -/
def refuseRedirect (text : List Char) : Job Bool := do
  complainHere text
  return false

/-- Lets a stream write to a file. -/
def redirectTo (stream : Nat) (sign : RedirectSign) (target : List Char) : Job Bool := do
  let s ← get
  let refused (fault : Fault) : Job Bool :=
    refuseRedirect ("cannot create ".toList ++ target ++ ": ".toList ++
      (faultWordsOr "Directory nonexistent" fault).toList)
  let isProtected := sign = .output && s.options.contains 'C' &&
    match s.find target with
    | .ok content => content.isFile
    | .error _ => false
  if isProtected then refused .alreadyExists
  else
    match s.create target with
    | .error fault => refused fault
    | .ok (s, id) =>
        let s := if sign = .output || sign = .overwrite then s.truncate id else s
        match s.channelOf id (sign = .append) with
        | .ok channel =>
            set (s.openStream stream channel)
            return true
        | .error fault => refused fault

/-- Lets a stream lead somewhere else; answers whether that was possible. -/
def redirectStream (stream : Nat) (sign : RedirectSign) (target : List Char) : Job Bool := do
  let s ← get
  match sign with
  | .input =>
      match s.findNode target true with
      | .error fault => refuseRedirect (notOpened target fault)
      | .ok id =>
          match s.channelOf id false with
          | .error fault => refuseRedirect (notOpened target fault)
          | .ok channel =>
              set (s.openStream stream channel)
              return true
  | .output | .overwrite | .append | .both => redirectTo stream sign target
  | .duplicate =>
      if target = ['-'] then
        set (s.closeStream stream)
        return true
      else
        match digitsValue? 10 target with
        | some n =>
            if (s.channel? n).isSome then
              set (s.copyStream stream n)
              return true
            else refuseRedirect (target ++ ": Bad file descriptor".toList)
        | none => giveUp "Syntax error: Bad fd number".toList

/-! ## Leaving things as they were -/

/-- The stream of a redirection. -/
def Redirect.stream : Redirect → Nat
  | .to stream _ _ | .document stream _ => stream

/-- The greatest number of a channel. -/
def Session.lastChannel (s : Session) : Nat := (s.channels.map Prod.fst).foldl max 0

/-- A session in which some streams lead to where they did before. -/
def Session.withStreamsOf (s before : Session) (streams : List Nat) : Session :=
  let others := s.streams.filter fun e => !streams.contains e.1
  let olds := before.streams.filter fun e => streams.contains e.1
  let last := before.lastChannel
  let all := olds ++ others
  { s with
    streams := all
    channels := s.channels.filter fun c => c.1 ≤ last || all.any fun e => e.2 == c.1 }

/-- Runs a job, and puts the streams of redirections back behind it. -/
def withStreams (redirects : List Redirect) (job : Job Unit) : Job Unit := fun before =>
  if redirects.isEmpty then job before
  else thenAlways job (fun s => s.withStreamsOf before (redirects.map Redirect.stream)) before

/-- Runs a job, and takes what it writes. -/
def captured (job : Job Unit) : Job (List Char) := do
  let before ← get
  set before.openLevel
  job
  let (after, text) := (← get).closeLevel
  set { after with streams := before.streams }
  return text

/-- Runs a job on a session of its own, and keeps of that what it wrote, what it left of
the streams, the files, the time, and its status.  Only a signal ends more than the job. -/
def apart (session : Session) (job : Job Unit) : Job Unit := do
  let before ← get
  let process := before.processes + firstProcess
  let (result, after) := job { session with
    process := process
    processes := before.processes + 1 }
  let last := before.lastChannel
  set { before with
    status := after.status
    output := after.output
    outerOutputs := after.outerOutputs
    complaints := after.complaints
    channels := after.channels.filter fun c => c.1 ≤ last
    files := after.files
    clock := after.clock
    processes := after.processes
    pending := after.pending }
  match result with
  | .error (.killed signal) => throw (.killed signal)
  | _ => return ()

end DesiredState.Shell
