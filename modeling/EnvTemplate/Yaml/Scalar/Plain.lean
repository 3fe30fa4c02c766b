import EnvTemplate.Yaml.Scalar.Gap
/-! Plain scalars, which have no quotes. They end where something else could begin. -/
namespace EnvTemplate.Yaml.Plain

/-- Characters that mean something of their own at the start of a token. -/
def isIndicator (c : Char) : Bool :=
  isFlowIndicator c ||
    ['-', '?', ':', '#', '&', '*', '!', '|', '>', '\x27', '"', '%', '@', '\x60'].contains c

def canBegin (inFlow : Bool) (c : Char) (rest : List Char) : Bool :=
  !(isSpace c || isIndicator c) ||
    (c == '-' && !rest.head?.any isBlank) ||
    (!inFlow && (c == '?' || c == ':') && !endsWord rest)

/-- Whether a gap before a text ends the scalar: what follows is indented too little, is the mark of
a document or is a comment. -/
def endsAfterGap (inFlow : Bool) (indent : Nat) (gap : Gap) (text : List Char) : Bool :=
  (!inFlow && gap.crossesLine && gap.lastWidth < indent) ||
    (gap.endsLine && beginsWithDocumentMark text) ||
    (!gap.spaces.isEmpty && text.head? == some '#')

def endsAt (inFlow : Bool) (c : Char) (rest : List Char) : Bool :=
  (c == ':' && endsWord rest) || (inFlow && isFlowIndicator c)

/-- Whether a colon stands where a scalar between brackets may have none. -/
def isMisplacedColon (inFlow : Bool) (c : Char) (rest : List Char) : Bool :=
  inFlow && c == ':' && rest.head?.any fun d => isFlowIndicator d || d == '?'

/-- Reads on in a plain scalar after a gap. Gives the text, the gap after it, and what is left. -/
def readAfter (inFlow : Bool) (indent : Nat) (gap : Gap) :
    List Char → Option (List Char × Gap × List Char)
  | [] => if gap.tabsFrom indent then some ([], gap, []) else none
  | c :: rest =>
    if isSpace c then readAfter inFlow indent (gap.push c) rest
    else if !gap.tabsFrom indent then none
    else if endsAfterGap inFlow indent gap (c :: rest) then some ([], gap, c :: rest)
    else if isMisplacedColon inFlow c rest then none
    else if endsAt inFlow c rest then some ([], gap, c :: rest)
    else do
      let (text, last, left) ← readAfter inFlow indent {} rest
      some (gap.text ++ c :: text, last, left)

/-- Reads a plain scalar. Later lines are indented at least as given, except between brackets. -/
def read (inFlow : Bool) (indent : Nat) (text : List Char) : Option (List Char × Gap × List Char) :=
  readAfter inFlow indent {} text

end EnvTemplate.Yaml.Plain
