import PagedListing.Log.Template.Conversion

set_option autoImplicit false

/-!
# Message templates

A message with directives in it, each behind a percent sign and filled by one argument.
A percent sign itself is written twice.
-/

namespace PagedListing.Log.Template

open PagedListing.Text

/-- Fills what is left of a template of a given length. Each unit of fuel admits one
more step. -/
def fillFrom (length : Nat) :
    Nat → Arguments → List Char → Except TemplateFault (List CodePoint)
  | 0, _, _ => .ok []
  | _ + 1, arguments, [] => do
      arguments.finish
      return []
  | fuel + 1, arguments, '%' :: '%' :: rest => do
      return '%'.toNat :: (← fillFrom length fuel arguments rest)
  | fuel + 1, arguments, '%' :: rest => do
      let (directive, arguments, rest) ← Directive.read arguments rest
      let (value, arguments) ← arguments.next
      let shown ← directive.convert (length - rest.length - 1) value
      return shown ++ (← fillFrom length fuel arguments rest)
  | fuel + 1, arguments, c :: rest => do
      return c.toNat :: (← fillFrom length fuel arguments rest)

/-- Fills a template. Without arguments it is taken as it stands. -/
def fill (template : String) (arguments : List Value) :
    Except TemplateFault (List CodePoint) :=
  let text := template.toList
  if arguments.isEmpty then .ok (codePoints text)
  else fillFrom text.length (text.length + 1) (Arguments.ofList arguments) text

end PagedListing.Log.Template
