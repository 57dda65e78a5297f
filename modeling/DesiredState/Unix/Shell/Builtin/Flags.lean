import DesiredState.Unix.Shell.Condition

/-!
# Flags of commands of the shell

The options of a command of the shell are letters behind a dash in its first arguments.

## Main definitions

* `readFlags` — the options of a command, and the arguments behind them.
* `countArgument` — the number that an argument spells.
-/

namespace DesiredState.Shell

/-- An option, with its argument if it takes one. -/
structure Flag where
  letter : Char
  argument : List Char

/-- The options at the start of arguments and what follows them, or a complaint.  The letters
that are known may have a colon behind them, and take an argument then. -/
def flagsOf (known : String) : Nat → List (List Char) →
    Except (List Char) (List Flag × List (List Char))
  | 0, arguments => .ok ([], arguments)
  | fuel + 1, arguments =>
      match arguments with
      | ['-', '-'] :: rest => .ok ([], rest)
      | ('-' :: c :: more) :: rest =>
          let others := known.toList.dropWhile (· != c)
          if c = ':' || others.isEmpty then .error ("Illegal option -".toList ++ [c])
          else if others[1]? = some ':' then
            match more, rest with
            | [], [] => .error ("No arg for -".toList ++ c :: " option".toList)
            | [], argument :: rest => do
                let (flags, operands) ← flagsOf known fuel rest
                pure (⟨c, argument⟩ :: flags, operands)
            | more, rest => do
                let (flags, operands) ← flagsOf known fuel rest
                pure (⟨c, more⟩ :: flags, operands)
          else do
            let (flags, operands) ←
              flagsOf known fuel (if more.isEmpty then rest else ('-' :: more) :: rest)
            pure (⟨c, []⟩ :: flags, operands)
      | arguments => .ok ([], arguments)

/-- Does something with the options of a command and the arguments behind them. -/
def withFlags (known : String) (arguments : List (List Char))
    (job : List Flag → List (List Char) → Job Unit) : Job Unit := do
  let fuel := (arguments.map List.length).foldl (· + ·) 0 + arguments.length + 1
  match flagsOf known fuel arguments with
  | .ok (flags, operands) => job flags operands
  | .error complaint => refuse complaint

/-- Whether a letter is among options. -/
def hasFlag (flags : List Flag) (c : Char) : Bool := flags.any (·.letter == c)

/-- The number that an argument spells.  An argument that spells none, or one below
zero, is complained about, and there is no number then. -/
def countArgument (argument : List Char) : Job (Option Nat) := do
  match Condition.numberOf argument with
  | .ok (.ofNat n) =>
      if n < 1 <<< 31 then return some n
      else
        refuse ("Illegal number: ".toList ++ argument)
        return none
  | _ =>
      refuse ("Illegal number: ".toList ++ argument)
      return none

/-- A value in quotes, such that the shell reads it as it is. -/
def quotedForShell (cs : List Char) : List Char :=
  let parts := splitAtChar '\'' cs
  List.intercalate "\"'\"".toList (parts.map fun part => '\'' :: part ++ ['\''])

end DesiredState.Shell
