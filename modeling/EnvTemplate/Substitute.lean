import EnvTemplate.Failure
import EnvTemplate.Placeholder
import EnvTemplate.Value.Text
/-! Substitution of placeholders. A doubled percent sign is masked, every pass replaces all innermost
placeholders by their rendered values, and the masks become single percent signs at the end. -/
namespace EnvTemplate

abbrev Resolver := String → Except Failure Value

abbrev Renderer := Value → String

namespace Template

/-- Stands for a doubled percent sign while placeholders are replaced. -/
def marker : List Char := "\x00__ESCAPED_PERCENT__\x00".toList

def mask (text : List Char) : List Char :=
  Text.replaceAll ['%', '%'] marker text

def unmask (text : List Char) : List Char :=
  Text.replaceAll marker ['%'] text

def splice (text : List Char) (p : Placeholder) (rendered : List Char) : List Char :=
  text.take p.start ++ rendered ++ text.drop p.stop

/-- Replaces placeholders from right to left, so that the places of those to the left stay valid and
the rightmost failure is the one that counts. -/
def replacePass (resolve : Resolver) (render : Renderer) (text : List Char)
    (placeholders : List Placeholder) : Except Failure (List Char) :=
  placeholders.foldrM (fun p text => (resolve p.heap).map fun v => splice text p (render v).toList)
    text

/-- Replaces innermost placeholders until none is left, in as many passes as are allowed. -/
def passes (resolve : Resolver) (render : Renderer) (limit : Nat) :
    (allowed : Nat) → List Char → Except Failure (List Char)
  | allowed, text =>
    let found := Placeholder.innermost text
    if found.isEmpty then .ok text
    else
      match allowed with
      | 0 => .error (.reported (.nestingDepthExceeded limit))
      | allowed + 1 =>
        match replacePass resolve render text found with
        | .error failure => .error failure
        | .ok text => passes resolve render limit allowed text

def substitute (resolve : Resolver) (render : Renderer) (limit : Nat) (text : String) :
    Except Failure String :=
  (passes resolve render limit limit (mask text.toList)).map fun text =>
    String.ofList (unmask text)

/-- How values are written unless said otherwise: strings as they are, bytes as lossy text, and
everything else as JSON. -/
def renderPlain : Renderer
  | .string s => s
  | .bytes bs => String.ofList (Utf8.decodeLossy bs)
  | v => v.jsonText

def defaultLimit : Nat := 100

end Template

end EnvTemplate
