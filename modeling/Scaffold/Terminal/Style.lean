/-!
# Styled text

Colors and weights are switched on in front of a text and off behind it.
-/

namespace Scaffold

inductive Color where
  | red
  | green
  | yellow
  | blue
  | cyan
deriving DecidableEq, Repr

namespace Style

def colorCode : Color → String
  | .red => "31"
  | .green => "32"
  | .yellow => "33"
  | .blue => "34"
  | .cyan => "36"

def switch (code : String) : String := "\x1b[" ++ code ++ "m"

def colored (color : Color) (text : String) : String :=
  switch (colorCode color) ++ text ++ switch "39"

def bold (text : String) : String := switch "1" ++ text ++ switch "0"

def dimmed (text : String) : String := switch "2" ++ text ++ switch "0"

/-- Both, with the weight outside. -/
def strong (color : Color) (text : String) : String := bold (colored color text)

end Style
end Scaffold
