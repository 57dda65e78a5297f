import DesiredState.Script.Parameters
import DesiredState.Script.Redaction

/-!
# Scripts

A script defines what it needs, builds credentials and instances, assigns the
parameter block, and calls the resource.  The first and the last part are the
same in every script; the part between them is made for one invocation.

A script is kept as its statements and its block.  Its text and the copy that
people may see are made from these.

## Main definitions

* `Script` — statements and parameter block.
* `Script.body`, `Script.text`, `Script.redacted` — its own part, its text, and
  the copy of the text without secrets.
* `Invocation.script` — the script of an invocation.
-/

namespace DesiredState

/-- The lines before the part made for the invocation: the definition of
`New-PSCredential`, and the object that reports the outcome of a set. -/
def preambleLines : List String :=
  [ "$ErrorActionPreference = 'Stop'",
    "$ProgressPreference = 'SilentlyContinue'",
    "",
    "function New-PSCredential \x7b",
    "    param(",
    "        [Parameter(Mandatory = $true)] [string] $User,",
    "        [Parameter(Mandatory = $true)] [string] $Password",
    "    )",
    "    $secure = ConvertTo-SecureString -String $Password -AsPlainText -Force",
    "    New-Object System.Management.Automation.PSCredential($User, $secure)",
    "\x7d",
    "",
    "$Response = @\x7b",
    "    indesiredstate = $false",
    "    rebootrequired = $false",
    "    errormessage   = ''",
    "\x7d" ]

/-- The lines behind the part made for the invocation: the call of the
resource, and its outcome as one JSON object. -/
def postscriptLines : List String :=
  [ "try \x7b",
    "    $Result = Invoke-DscResource @InvokeParams",
    "\x7d catch \x7b",
    "    $Response.errormessage = $_.Exception.Message",
    "    $Response | ConvertTo-Json -Compress",
    "    return",
    "\x7d",
    "",
    "switch ($InvokeParams.Method) \x7b",
    "    'set' \x7b",
    "        $Response.indesiredstate = $true",
    "        $Response.rebootrequired = [bool]$Result.RebootRequired",
    "        $Response | ConvertTo-Json -Compress",
    "    \x7d",
    "    'get' \x7b",
    "        $Properties = @\x7b\x7d",
    "        if ($null -ne $Result) \x7b",
    "            foreach ($Property in $Result.PSObject.Properties) \x7b",
    "                if ($Property.Value -is " ++
      "[Microsoft.Management.Infrastructure.CimInstance]) \x7b",
    "                    $Properties[$Property.Name] = $Property.Value | " ++
      "Select-Object -Property * -ExcludeProperty Cim*",
    "                \x7d elseif ($null -ne $Property.Value) \x7b",
    "                    $Properties[$Property.Name] = $Property.Value",
    "                \x7d",
    "            \x7d",
    "        \x7d",
    "        $Properties.errormessage = ''",
    "        $Properties | ConvertTo-Json -Compress -Depth 10",
    "    \x7d",
    "\x7d" ]

/-- The statements and the parameter block made for an invocation. -/
structure Script where
  credentials : List Statement
  instances : List Statement
  block : Expr

namespace Script

/-- Lines joined by line feeds. -/
def joinLines (lines : List (List Char)) : List Char := List.intercalate ['\n'] lines

/-- The part made for the invocation. -/
def body (s : Script) : List Char :=
  joinLines (s.credentials.map Statement.write ++ s.instances.map Statement.write ++
    [writeAssignment s.block])

/-- The characters of the whole script. -/
def write (s : Script) : List Char :=
  joinLines (preambleLines.map String.toList ++ [s.body] ++
    postscriptLines.map String.toList) ++ ['\n']

/-- The text for the interpreter. -/
def text (s : Script) : String := String.ofList s.write

/-- The text that people may see. -/
def redacted (s : Script) : String := String.ofList (redact s.write)

end Script

namespace Invocation

/-- The statements and the block of an invocation, built on a pool. -/
def build (inv : Invocation) : Builder Script := do
  let credentials ← declareCredentials inv.parameters.entries
  let instances ← declareInstances inv.parameters.entries
  match inv.toExpr (← get) with
  | .error e => throw e
  | .ok block => pure ⟨credentials, instances, block⟩

/-- The script of an invocation, with variables named by a source. -/
def script (source : NameSource) (inv : Invocation) : Except Error Script :=
  (inv.build (Pool.empty source)).1

end Invocation

end DesiredState
