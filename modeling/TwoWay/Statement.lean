import TwoWay.Grammar.Build
import TwoWay.Primitive

/-!
A small language of statements. A declaration gives a name a text, an assignment gives a target an
integer or a text, and a program is a list of both with white space between them or not.
-/

namespace TwoWay.Statement

open Primitive

def identifierLeaf : Grammar (.scalar .text) :=
  .terminal identifier

def stringLeaf : Grammar (.scalar .text) :=
  .terminal stringLiteral

def integerLeaf : Grammar (.scalar .integer) :=
  .terminal integer

def whitespaceLeaf : Grammar (.scalar .text) :=
  .terminal whitespace

def declarationElements : List Element :=
  [.literal "let", .skip whitespaceLeaf, .field "name" identifierLeaf,
    .skip maybeWhitespace, .literal "=", .skip maybeWhitespace,
    .field "value" stringLeaf, .skip maybeWhitespace, .literal ";"]

/-- The word `let`, a name, an equals sign and a string literal, up to a semicolon. -/
def declaration : Grammar .record :=
  .template declarationElements

def operandBranches : List Branch :=
  [.mk "int" integerLeaf, .mk "str" stringLeaf]

/-- What may be assigned. -/
def operand : Grammar .tagged :=
  .choice operandBranches

def assignmentElements : List Element :=
  [.field "target" identifierLeaf, .skip maybeWhitespace, .literal "=", .skip maybeWhitespace,
    .field "value" operand, .skip maybeWhitespace, .literal ";"]

/-- A target, an equals sign and an integer or string literal, up to a semicolon. -/
def assignment : Grammar .record :=
  .template assignmentElements

def statementBranches : List Branch :=
  [.mk "let" declaration, .mk "set" assignment]

def statement : Grammar .tagged :=
  .choice statementBranches

/-- Statements, tagged as declarations or assignments. -/
def statements : Grammar (.list .tagged) :=
  .separated false statement maybeWhitespace

/-- The grammars pass the checks of building. -/
theorem buildTemplate_declaration :
    Grammar.buildTemplate declarationElements = .ok declaration := rfl

theorem buildTemplate_assignment :
    Grammar.buildTemplate assignmentElements = .ok assignment := rfl

theorem buildChoice_operand : Grammar.buildChoice operandBranches = .ok operand := rfl

theorem buildChoice_statement : Grammar.buildChoice statementBranches = .ok statement := rfl

theorem buildSeparated_statements :
    Grammar.buildSeparated false statement maybeWhitespace = .ok statements := rfl

end TwoWay.Statement
