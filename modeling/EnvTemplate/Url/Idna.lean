import EnvTemplate.Unicode.Bidi
import EnvTemplate.Unicode.CaseFold
import EnvTemplate.Unicode.Composition
import EnvTemplate.Unicode.Joining
import EnvTemplate.Unicode.Printable
/-! Labels of domain names beyond ASCII: what their characters are mapped to, and which labels are
valid. -/
namespace EnvTemplate.Idna

def isFullStop (c : Char) : Bool :=
  c == '\uFF0E' || c == '\u3002' || c == '\uFF61'

def nonJoiner : Char := '\u200C'

def joiner : Char := '\u200D'

/-- Characters that are kept though folding changes them. -/
def isKept (c : Char) : Bool :=
  c == 'ß' || c == 'ς' || c == nonJoiner || c == joiner

def ignored : Unicode.Ranges := [
    (0xAD, 0xAD), (0x34F, 0x34F), (0x180B, 0x180D), (0x180F, 0x180F), (0x200B, 0x200B),
    (0x2060, 0x2060), (0x2064, 0x2064), (0xFE00, 0xFE0F), (0xFEFF, 0xFEFF), (0x1BCA0, 0x1BCA3),
    (0xE0100, 0xE01EF)]

/-- Characters that only describe how others are built, or stand in the place of others. -/
def isExcluded (c : Char) : Bool :=
  (0x2FF0 ≤ c.toNat && c.toNat ≤ 0x2FFF) || c == '\uFFFC' || c == '\uFFFD'

/-- What a character is mapped to. A character with no place in a domain name is refused, and so is one
that would bring a full stop with it. -/
def mapChar? (c : Char) : Option (List Char) :=
  if c.toNat < 128 then some [c.toLower]
  else if isFullStop c then some ['.']
  else if isKept c then some [c]
  else if c = 'ẞ' then some ['ß']
  else
    let folded := Unicode.caseFold c
    if folded.isEmpty then (if ignored.contains c then some [] else none)
    else if folded = [c] then
      if Unicode.isPrintable c && !isExcluded c then some [c] else none
    else if folded.contains '.' then none
    else some folded

/-- The normal form of a text, if all its characters have a place in a domain name. -/
def normalize? (text : List Char) : Option (List Char) :=
  (text.mapM mapChar?).map fun mapped => Unicode.compose mapped.flatten

/-! Joiners. Each stands after a virama; the non-joiner also between characters that would join. -/

/-- Whether a joiner may stand between what is before it, reversed, and what is after it. -/
def joinerFits (c : Char) (before after : List Char) : Bool :=
  before.head?.any (Unicode.combiningClass · == Unicode.viramaClass) ||
    (c == nonJoiner && (before.dropWhile Unicode.isTransparent).head?.any Unicode.joinsNext &&
      (after.dropWhile Unicode.isTransparent).head?.any Unicode.joinsPrevious)

/-- Whether all joiners fit, after what stands before, reversed. -/
def joinersFit (before : List Char) : List Char → Bool
  | [] => true
  | c :: rest =>
    ((c != joiner && c != nonJoiner) || joinerFits c before rest) && joinersFit (c :: before) rest

/-! Direction. In a name with letters that are written from right to left, each label has one
direction. -/

open Unicode (Direction direction)

/-- Whether a label has letters or numbers that are written from right to left. -/
def isBidi (label : List Char) : Bool :=
  label.any fun c => direction c == .right || direction c == .arabicNumber

/-- Whether a label keeps to the direction of its first character. -/
def hasOneDirection (label : List Char) : Bool :=
  let directions := label.map direction
  let last := (directions.reverse.dropWhile (· == .mark)).head?
  match directions.head? with
  | none => true
  | some .left =>
    directions.all [.left, .europeanNumber, .neutral, .mark].contains &&
      last.any [.left, .europeanNumber].contains
  | some .right =>
    directions.all [.right, .arabicNumber, .europeanNumber, .neutral, .mark].contains &&
      last.any [.right, .europeanNumber, .arabicNumber].contains &&
      !(directions.contains .europeanNumber && directions.contains .arabicNumber)
  | some _ => false

def isLabel (label : List Char) : Bool :=
  !label.head?.any Unicode.isMark && joinersFit [] label

end EnvTemplate.Idna
