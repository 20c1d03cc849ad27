import RawReel.CommandLine
import RawReel.Text.Quoted

/-!
Reports as lines: for reading, or as objects with the time, the level, the part of the program and
the text.
-/

namespace RawReel.LogLine

/-- The lines after the first are indented. -/
def indented (message : List Char) : List Char :=
  message.flatMap fun c => if c == '\n' then ['\n', ' ', ' ', ' ', ' '] else [c]

def plain (time : String) (level : Level) (target message : String) : String :=
  "[" ++ time ++ " " ++ Text.padEnd 5 level.name ++ " " ++ target ++ "] "
    ++ String.ofList (indented message.toList)

/-- The time stands bare; the text is quoted. -/
def json (time : String) (level : Level) (target message : String) : String :=
  "\x7b\"ts\":" ++ time ++ ",\"lvl\":\"" ++ level.name ++ "\",\"target\":\"" ++ target
    ++ "\",\"msg\":" ++ String.ofList (Text.Quoted.encode message.toList) ++ "\x7d"

/-- A report as one line, without the line's end. -/
def render (format : LogFormat) (time : String) (d : Diagnostic) : String :=
  match format with
  | .plain => plain time d.level d.target d.message
  | .json => json time d.level d.target d.message

end RawReel.LogLine
