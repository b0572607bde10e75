import OpticScene.Expr.Token
import OpticScene.Decimal.Read
import OpticScene.Decimal.Style

/-!
# Errors of expressions

Why an expression is not well formed, and why it has no value. Every error names a place.

## Main definitions

* `Expr.FormCause`: what is wrong with the form of an expression.
* `Expr.ValueCause`: what goes wrong when it is evaluated.
* `Expr.Failure`: a cause with its place, and `Expr.Failure.message`.
-/

namespace OpticScene.Expr

/-- What is wrong with the form of an expression. -/
inductive FormCause where
  /-- A piece of text is no token or stands where none fits. -/
  | lexical (cause : LexicalCause)
  /-- The text ends too early. -/
  | incomplete
  /-- A token is missing. -/
  | missing (token purpose : String)
  /-- A word is kept for other uses. -/
  | reservedWord (word : String)
  /-- A symbol is kept for other uses. -/
  | reservedSymbol (symbol : String)
  /-- A symbol stands where an operator should. -/
  | unknownOperator (symbol : String)
  /-- No name follows a dot. -/
  | propertyExpected
  /-- A property stands twice in an object map. -/
  | duplicateProperty (name : String)
  /-- Something else than an expression of the right kind follows. -/
  | expressionExpected (kind : String)
  /-- A literal of another type stands where a truth value should. -/
  | truthExpected (got : String)
  /-- A literal is indexed by something that never fits. -/
  | indexType (message : String)
  /-- A method is asked to see the scope of the call. -/
  | methodInScope
  /-- A literal has too many parts. -/
  | literalTooLarge (what : String) (limit : Nat)
  /-- Expressions are nested too deep. -/
  | tooDeep
  /-- A case follows the default case of a switch. -/
  | defaultNotLast
  /-- A default case has a condition. -/
  | conditionalDefault
  /-- A case for a number follows one for a range. -/
  | numberAfterRange
  deriving Repr, DecidableEq, Inhabited

/-- The text of a cause. -/
def FormCause.message : FormCause → String
  | .lexical cause => cause.message
  | .incomplete => "Script is incomplete"
  | .missing token purpose => "Expecting '" ++ token ++ "' " ++ purpose
  | .reservedWord word => "'" ++ word ++ "' is a reserved keyword"
  | .reservedSymbol symbol => "'" ++ symbol ++ "' is a reserved symbol"
  | .unknownOperator symbol => "Unknown operator: '" ++ symbol ++ "'"
  | .propertyExpected => "Expecting name of a property"
  | .duplicateProperty name => "Duplicated property for object map literal: " ++ name
  | .expressionExpected kind => "Expecting " ++ kind ++ " expression"
  | .truthExpected got => "Expecting a boolean expression, not " ++ got
  | .indexType message => message
  | .methodInScope =>
    "method-call style does not support running within the caller's scope"
  | .literalTooLarge what limit =>
    what ++ " exceeds the maximum limit (" ++ toString limit ++ ")"
  | .tooDeep => "Expression exceeds maximum complexity"
  | .defaultNotLast => "Default switch case must be the last"
  | .conditionalDefault => "This switch case cannot have a condition"
  | .numberAfterRange => "Numeric switch case cannot follow a range case"

/-- What a piece of text that is no token makes of the form of an expression. -/
def FormCause.ofLexical : LexicalCause → FormCause
  | .longText limit => .literalTooLarge "Length of string" limit
  | cause => .lexical cause

/-- What goes wrong when an expression is evaluated. -/
inductive ValueCause where
  /-- No variable has the name. -/
  | variableNotFound (name : String)
  /-- No function has the name and takes values of these types. -/
  | functionNotFound (name : String) (types : List String)
  /-- Values of the type have no such property. -/
  | unknownProperty (name type : String)
  /-- Values of the type cannot be indexed by values of the other type. -/
  | notIndexable (type index : String)
  /-- A value of another type was expected. -/
  | wrongType (type expected : String)
  /-- A text was expected to stand for a value of another type. -/
  | wrongResult (type expected : String)
  /-- An index is outside an array. -/
  | arrayBounds (index : Int) (length : Nat)
  /-- An index is outside a text. -/
  | textBounds (index : Int) (length : Nat)
  /-- An index is outside the bits of an integer. -/
  | bitBounds (index : Int)
  /-- The result of an operation on integers is out of range. -/
  | overflow (operation : String) (left : Int) (symbol : String) (right : Int)
  /-- The negative of an integer is out of range. -/
  | negationOverflow (value : Int)
  /-- The whole part of a number is out of range. -/
  | integerOverflow (value : Float)
  /-- The sign of a value that is not a number. -/
  | signOfNaN
  /-- A text is no integer. -/
  | badInteger (text : String) (reason : Decimal.ReadError)
  /-- A text is no number. -/
  | badFloat (text : String) (reason : Decimal.ReadError)
  /-- Integers have no digits in the base. -/
  | badRadix (radix : Int)
  /-- The steps of a series lead nowhere. -/
  | zeroStep
  /-- Values of different types have no order. -/
  | unsortable
  /-- A text is not the name of a function. -/
  | noFunctionName (name : String)
  /-- A function has to be called in another way. -/
  | misused (name : String)
  /-- Too many texts are evaluated within each other. -/
  | nestedTexts
  /-- A value is larger than allowed. -/
  | tooLarge (what : String)
  deriving Repr, Inhabited

/-- The text about an index outside a `whole` with `length` parts. -/
def boundsMessage (title whole part : String) (index : Int) (length : Nat) : String :=
  title ++ " index " ++ toString index ++ " out of bounds: " ++
    match length with
    | 0 => whole ++ " is empty"
    | 1 => "only 1 " ++ part ++ " in " ++ whole
    | n => "only " ++ toString n ++ " " ++ part ++ "s in " ++ whole

/-- The text of a cause. -/
def ValueCause.message : ValueCause → String
  | .variableNotFound name => "Variable not found: " ++ name
  | .functionNotFound name types =>
    "Function not found: " ++ name ++ " (" ++ ", ".intercalate types ++ ")"
  | .unknownProperty name type =>
    "Unknown property '" ++ name ++ "' - a getter is not registered for type '" ++ type ++ "'"
  | .notIndexable type index => "Indexer unavailable: " ++ type ++ " [" ++ index ++ "]"
  | .wrongType type expected =>
    "Data type incorrect: " ++ type ++ " (expecting " ++ expected ++ ")"
  | .wrongResult type expected =>
    "Output type incorrect: " ++ type ++ " (expecting " ++ expected ++ ")"
  | .arrayBounds index length => boundsMessage "Array" "array" "element" index length
  | .textBounds index length => boundsMessage "String" "string" "character" index length
  | .bitBounds index =>
    "Bit-field index " ++ toString index ++ " out of bounds: only 64 bits in bit-field"
  | .overflow operation left symbol right =>
    operation ++ ": " ++ toString left ++ " " ++ symbol ++ " " ++ toString right
  | .negationOverflow value => "Negation overflow: -" ++ toString value
  | .integerOverflow value => "Integer overflow: to_int(" ++ Decimal.plain.write value ++ ")"
  | .signOfNaN => "Sign of NaN is undefined"
  | .badInteger text reason =>
    "Error parsing integer number '" ++ text ++ "': " ++ reason.message
  | .badFloat text reason =>
    "Error parsing floating-point number '" ++ text ++ "': " ++ reason.message
  | .badRadix radix => "Invalid radix: '" ++ toString radix ++ "'"
  | .zeroStep => "step value cannot be zero in call to function 'range'"
  | .unsortable => "Function not found: elements of different types cannot be sorted"
  | .noFunctionName name => "Function not found: " ++ name
  | .misused name =>
    "Runtime error: '" ++ name ++ "' should not be called this way. Try " ++ name ++ "(...);"
  | .nestedTexts => "Stack overflow"
  | .tooLarge what => what ++ " too large"

/-- Why an expression has no value. -/
inductive Cause where
  /-- It is not well formed. -/
  | form (cause : FormCause)
  /-- Its evaluation fails. -/
  | value (cause : ValueCause)
  /-- The cause, at a place of its own, lies in the call of a function. -/
  | inCall (cause : Cause) (place : Position) (name : String)
  deriving Repr, Inhabited

/-- The text of a cause. -/
def Cause.message : Cause → String
  | .form cause => "Syntax error: " ++ cause.message
  | .value cause => cause.message
  | .inCall cause place name =>
    cause.message ++ place.suffix ++ " in call to function '" ++ name ++ "'"

/-- A cause and the place where it shows. -/
structure Failure where
  /-- What is wrong. -/
  cause : Cause
  /-- Where it shows. -/
  place : Position
  deriving Repr, Inhabited

/-- An error about a value at a place. -/
def Failure.ofValue (p : Position) (cause : ValueCause) : Failure := ⟨.value cause, p⟩

/-- The failure of the function with a name at a place, when this is what goes wrong in it. -/
def Failure.inCall (name : String) (p : Position) (f : Failure) : Failure :=
  ⟨.inCall f.cause f.place name, p⟩

/-- Whether a function with the name takes no values of the types at hand. -/
def Failure.isFunctionNotFound (f : Failure) : Bool := f.cause matches .value (.functionNotFound ..)

/-- The text of a failure. -/
def Failure.message (f : Failure) : String := f.cause.message ++ f.place.suffix

end OpticScene.Expr
