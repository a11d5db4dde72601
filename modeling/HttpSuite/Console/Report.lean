import HttpSuite.Console.Markup
import HttpSuite.Diagnostic

/-!
# Reports

What the console says about an error: its wording, its place, and hints on how to mend it.
-/

namespace HttpSuite

/-- Hints for a broken rule. -/
def Rule.hints : Rule → List String
  | .noTests =>
    ["Add a test block, e.g. test First \x7b GET \"/api/users\"; expect status = 200; " ++
      "expect body contains \"id\"; \x7d"]
  | .emptyTest => ["Each test block needs at least one request: GET, POST, PUT or DELETE"]
  | .insufficientAssertions =>
    ["Each test needs at least 2 assertions",
      "expect status = <code>;",
      "expect status in <min>..<max>;",
      "expect body contains \"text\";",
      "expect header \"Name\" = \"Value\";"]

/-- Hints for a stage. -/
def Stage.hints : Stage → List String
  | .lex =>
    ["String literals are double-quoted and must close on the same line",
      "Only letters, digits, _ and the symbols \x7b \x7d ; = .. are allowed outside strings"]
  | .parse =>
    ["Every request and expect statement ends with ';'",
      "Requests look like: GET \"/api/users\";",
      "Each test block is written: test Name \x7b ... \x7d"]
  | .validate => []
  | .codegen =>
    ["Check that the output directory is writable",
      "Verify that the output path is correct",
      "Java output files must be named after a valid class name, e.g. ApiTests.java"]

namespace CompileError

/-- Hints for an error. -/
def hints : CompileError → List String
  | .structural violation => violation.rule.hints
  | error => error.stage.hints

/-- The report of an error in a file, as markup. -/
def report (error : CompileError) (path : Path) : String :=
  let place := match error.diagnostic.location? with
    | some location => path.text.legible ++ ":" ++ location
    | none => path.text.legible
  let hints := if error.hints.isEmpty then [] else
    ["", "[blue]Suggestions:[/blue]"] ++
      error.hints.map fun hint => "  • " ++ Markup.escape hint
  "\n".intercalate (["[bold]" ++ Markup.escape error.text.legible ++ "[/bold]",
    "[dim]" ++ Markup.escape place ++ " (" ++ error.stage.name ++ ")[/dim]"] ++ hints)

end CompileError

end HttpSuite
