/-! One record of comma separated values. A field may be enclosed in quotes, a quote inside being
written twice; blanks before the opening quote are dropped, and text after the closing quote up
to the next comma is kept as it is. -/
namespace EnvTemplate.Csv

inductive Place
  /-- At its start, after blanks at most. -/
  | start
  /-- In text that no quotes enclose. -/
  | bare
  /-- Between quotes. -/
  | quoted
deriving DecidableEq

/-- The fields of the rest of a record, `field` being the text of the present one so far, in
reverse. -/
def fieldsFrom : Place → (field : List Char) → List Char → List (List Char)
  | _, field, [] => [field.reverse]
  | .quoted, field, c :: rest =>
    if c = '"' then
      match rest with
      | '"' :: rest' => fieldsFrom .quoted ('"' :: field) rest'
      | rest => fieldsFrom .bare field rest
    else fieldsFrom .quoted (c :: field) rest
  | place, field, c :: rest =>
    if c = ',' then field.reverse :: fieldsFrom .start [] rest
    else if place = .start ∧ c = '"' then fieldsFrom .quoted [] rest
    else if place = .start ∧ (c = ' ' ∨ c = '\t') then fieldsFrom .start (c :: field) rest
    else fieldsFrom .bare (c :: field) rest

/-- The fields of a record. There is always at least one. -/
def fields (record : List Char) : List (List Char) :=
  fieldsFrom .start [] record

end EnvTemplate.Csv
