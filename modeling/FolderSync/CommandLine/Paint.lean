import FolderSync.CommandLine.Arguments

/-!
# Paint

Words on the terminal may be painted: an escape sequence with the style's codes stands before them
and one that ends every style behind them.  `Style.paint` paints a text if painting is on.
-/

namespace FolderSync.CommandLine

/-- The colours. -/
inductive Colour where
  | red
  | green
  | yellow
  | blue
  | cyan
deriving DecidableEq, Repr

/-- How words are painted. -/
inductive Style where
  | plain (colour : Colour)
  | bold (colour : Colour)
  | dimmed
deriving DecidableEq, Repr

/-- The code of a colour. -/
def Colour.code : Colour → String
  | .red => "31"
  | .green => "32"
  | .yellow => "33"
  | .blue => "34"
  | .cyan => "36"

/-- The sequence that ends every style. -/
def Style.reset : String := "\x1b[0m"

/-- The sequence that begins a style. -/
def Style.sequence : Style → String
  | .plain colour => "\x1b[" ++ colour.code ++ "m"
  | .bold colour => "\x1b[1;" ++ colour.code ++ "m"
  | .dimmed => "\x1b[2m"

/-- The text with a style begun again wherever it is ended inside. -/
def Style.resume (s : Style) (text : List Char) : List Char :=
  match text with
  | [] => []
  | c :: rest =>
    let again := if Style.reset.toList.reverse.isPrefixOf (c :: rest) then s.sequence.toList.reverse
      else []
    again ++ c :: s.resume rest

/-- The text in a style, if painting is on. -/
def Style.paint (s : Style) (painting : Bool) (text : String) : String :=
  if painting then
    s.sequence ++ String.ofList (s.resume text.toList.reverse).reverse ++ Style.reset
  else text

/-- Is the output painted?  The environment can insist on it or forbid it; else it is on a terminal
only, where it can be switched off. -/
def isPainting (env : Environment) : Bool :=
  if (env.get? "CLICOLOR_FORCE").any (· ≠ "0") then true
  else if (env.get? "NO_COLOR").isSome then false
  else env.terminal && (env.get? "CLICOLOR").all (· ≠ "0")

end FolderSync.CommandLine
