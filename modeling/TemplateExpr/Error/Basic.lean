import TemplateExpr.Expr.ParseError
import TemplateExpr.Text.Digit
import TemplateExpr.Text.Encoding
import TemplateExpr.Text.Utf8
import TemplateExpr.Value.Host

/-!
# Errors of evaluation

An error is a cause. Its class (`EvalError.kind`), its wording (`EvalError.message`) and a longer
explanation (`EvalError.description?`) are functions on the causes.
-/

/-!
## Errors of item lineage

Why the item of an earlier node from which an item was made cannot be told. Some causes may go away
when more nodes have run (`isPending`).
-/

namespace TemplateExpr

/-- Why a paired item cannot be told. -/
inductive PairedItemError where
  | noExecutionData
  | noNodeExecutionData (node : String)
  | noInputConnection (node : String)
  | noConnection (node target : String)
  | invalidInfo (node reason : String)
  | noInfo (node : String) (item : Nat)
  | intermediateNodes (nodes : List String)
deriving Repr, DecidableEq

namespace PairedItemError

/-- The class of an error. -/
def kind : PairedItemError → String
  | noExecutionData => "no_execution_data"
  | noNodeExecutionData _ => "no_node_execution_data"
  | noInputConnection _ => "no_input_connection"
  | noConnection .. => "paired_item_no_connection"
  | invalidInfo .. => "paired_item_invalid_info"
  | noInfo .. => "paired_item_no_info"
  | intermediateNodes _ => "paired_item_intermediate_nodes"

/-- The wording of an error. -/
def message : PairedItemError → String
  | noExecutionData => "No execution data available"
  | noNodeExecutionData node => "No execution data found for node '" ++ node ++ "'"
  | noInputConnection node => "Node '" ++ node ++ "' has no input connection"
  | noConnection node target => "No path back to node '" ++ target ++ "' from '" ++ node ++ "'"
  | invalidInfo node reason =>
    "Paired item data for node '" ++ node ++ "' is invalid: " ++ reason
  | noInfo node item =>
    "Paired item data for item " ++ Text.Digit.decimal item ++ " of node '" ++ node ++
      "' is missing"
  | intermediateNodes nodes =>
    "Paired item chain passes through nodes without data: " ++ ", ".intercalate nodes

/-- The nodes that an error names. -/
def nodes : PairedItemError → List String
  | noExecutionData => []
  | noNodeExecutionData node | noInputConnection node | invalidInfo node _ | noInfo node _ => [node]
  | noConnection node target => [node, target]
  | intermediateNodes nodes => nodes

/-- Whether the data may still arrive in the same run. -/
def isPending : PairedItemError → Bool
  | noExecutionData | noNodeExecutionData _ | intermediateNodes _ => true
  | _ => false

end PairedItemError

end TemplateExpr

/-! ## Causes -/

namespace TemplateExpr

open TemplateExpr.Text

/-- How grave an error is. -/
inductive ErrorLevel where
  | warning
  | error
deriving Repr, DecidableEq

/-- The name of a level. -/
def ErrorLevel.name : ErrorLevel → String
  | warning => "warning"
  | error => "error"

/-- The resources of which an evaluation has a limited amount. -/
inductive Resource where
  | memory
  | callStack
deriving Repr, DecidableEq

/-- The name of a resource. -/
def Resource.name : Resource → String
  | memory => "memory"
  | callStack => "call stack"

/-! ### Causes -/

/-- What is forbidden about an expression. -/
inductive Violation where
  /-- Its text matches a blocked pattern. -/
  | pattern (name : String)
  /-- It accesses a member by a key that is not a literal. -/
  | computedAccess
  | method (name : String)
deriving Repr, DecidableEq

/-- The name of the rule that is violated. -/
def Violation.rule : Violation → String
  | pattern name => name
  | computedAccess => "computed_member_access"
  | method name => "method_not_allowed:" ++ name

/-- What is wrong with an argument. Positions of arguments count from one. -/
inductive ArgumentFault where
  | notString (position : Nat) (found : Kind)
  | missing (position : Nat)
  | missingNumber (position : Nat)
  | notFunction (position : Nat)
  | notObject
  | notArray (found : Kind)
  | notPairs
  | notNodeName (found : Kind)
  | nullish
  | decimals
  | radix
  | timeScale (unit : String)
  | unit (name : String)
  | dateRange
  | emptyReduce
  | itemNotNumber (text : String)
  | chunkSize
  | itemIndex
  | emptySearch
  | count (text : String)
  | base64 (fault : Base64.Fault)
  | bytes (fault : ByteFault)
  | json (message : String)

/-- The wording of a fault. -/
def ArgumentFault.message : ArgumentFault → String
  | notString position found =>
    "argument " ++ Digit.decimal position ++ " must be a string, got " ++ found.name
  | missing position => "missing argument " ++ Digit.decimal position
  | missingNumber position => "missing numeric argument " ++ Digit.decimal position
  | notFunction position => "argument " ++ Digit.decimal position ++ " must be an arrow function"
  | notObject => "expected an object to merge"
  | notArray found => "expected an array, got " ++ found.name
  | notPairs => "expected an array of [key, value] pairs"
  | notNodeName found => "expected a node name, got " ++ found.name
  | nullish => "cannot convert undefined or null to object"
  | decimals => "digits must be between 0 and 100"
  | radix => "radix must be an integer between 2 and 36"
  | timeScale found => "unknown unit '" ++ found ++ "', expected 'ms' or 's'"
  | unit name => "unknown unit '" ++ name ++ "'"
  | dateRange => "result is outside the supported date range"
  | emptyReduce => "Reduce of empty array with no initial value"
  | itemNotNumber text => "item '" ++ text ++ "' is not a number"
  | chunkSize => "size must be at least 1"
  | itemIndex => "expected a non-negative item index"
  | emptySearch => "search text must not be empty"
  | count text => "Invalid count value: " ++ text
  | base64 fault => fault.message
  | bytes fault => fault.message
  | json message => message

/-- Why a path query cannot be read. -/
inductive QueryFault where
  | noRoot (path : String)
  | descent
  | emptyKey
  | unclosedBracket
  | selector (text : String)
  | character (c : Char)
deriving Repr, DecidableEq

/-- The wording of a fault. -/
def QueryFault.message : QueryFault → String
  | noRoot path => "path '" ++ path ++ "' must start with '$'"
  | descent => "recursive descent '..' is not supported"
  | emptyKey => "empty key after '.'"
  | unclosedBracket => "unclosed '['"
  | selector text => "unsupported selector '[" ++ text ++ "]'"
  | character c => "unexpected character '" ++ c.toString ++ "'"

/-- What the engine does not do. -/
inductive Unsupported where
  | assignment
  | queries
deriving Repr, DecidableEq

/-- The wording of what is not done. -/
def Unsupported.message : Unsupported → String
  | assignment => "assignments are not supported in expressions"
  | queries => "JSON-path queries are disabled"

/-- Why an evaluation fails. -/
inductive EvalError where
  | parse (e : ParseError)
  | security (violation : Violation)
  | notDefined (name : String)
  | timeout (millis : Nat)
  | resourceLimit (resource : Resource) (limit : Nat)
  | unknownMethod (method : String) (receiver : Kind)
  /-- A method of `null` or `undefined`. -/
  | nullReceiver (method : String)
  /-- A property of `null` or `undefined`. -/
  | nullProperty (property : String) (receiver : Kind)
  | invalidDate (input : String)
  | invalidArgument (function : String) (fault : ArgumentFault)
  | notCallable (name : String)
  | readOnly (name : String)
  | unsupported (what : Unsupported)
  | query (fault : QueryFault)
  | pairedItem (e : PairedItemError)
  | cancelled

namespace EvalError

/-- The error of a text that cannot be read; too much nesting is a matter of the call stack. -/
def ofParseError (e : ParseError) : EvalError :=
  if e.kind = .tooDeep then resourceLimit .callStack maxDepth else parse e

/-- The class of an error. -/
def kind : EvalError → String
  | parse _ => "parse_error"
  | security _ => "security_error"
  | notDefined _ => "not_defined_error"
  | timeout _ => "timeout_error"
  | resourceLimit .. => "resource_limit_error"
  | unknownMethod .. => "unknown_method_error"
  | nullReceiver _ => "null_receiver_error"
  | nullProperty .. => "null_property_error"
  | invalidDate _ => "invalid_date_error"
  | invalidArgument .. => "invalid_argument_error"
  | notCallable _ => "not_callable_error"
  | readOnly _ => "read_only_error"
  | unsupported _ => "unsupported_error"
  | query _ => "query_error"
  | pairedItem e => e.kind
  | cancelled => "execution_cancelled"

/-- The wording of an error. -/
def message : EvalError → String
  | parse e => "Parse error: " ++ e.display
  | security v => "Security violation: expression matches blocked pattern '" ++ v.rule ++ "'"
  | notDefined name => name ++ " is not defined"
  | timeout millis => "Expression evaluation timed out after " ++ Digit.decimal millis ++ "ms"
  | resourceLimit resource limit =>
    "Resource limit exceeded: " ++ resource.name ++ " (limit " ++ Digit.decimal limit ++ ")"
  | unknownMethod method receiver =>
    "Method '" ++ method ++ "' does not exist on type " ++ receiver.name
  | nullReceiver method => "Cannot call '" ++ method ++ "' on a null or undefined value"
  | nullProperty property receiver =>
    "Cannot read properties of " ++ receiver.name ++ " (reading '" ++ property ++ "')"
  | invalidDate input => "Invalid date: '" ++ input ++ "'"
  | invalidArgument function fault =>
    "Invalid argument for '" ++ function ++ "': " ++ fault.message
  | notCallable name => name ++ " is not a function"
  | readOnly name => "Cannot assign to variables at runtime ('" ++ name ++ "')"
  | unsupported what => "Unsupported: " ++ what.message
  | query fault => "Query error: " ++ fault.message
  | pairedItem e => e.message
  | cancelled => "Execution was cancelled"

/-- How grave an error is: only a cancellation is a warning. -/
def level : EvalError → ErrorLevel
  | cancelled => .warning
  | _ => .error

/-- A longer explanation, which mostly says what to do. -/
def description? : EvalError → Option String
  | nullReceiver method => some ("Use optional access instead: value?." ++ method ++ "()")
  | nullProperty property _ =>
    some ("Use optional chaining to skip missing values, e.g. '?." ++ property ++ "'")
  | notDefined _ => some "Only the documented globals and $-variables are available"
  | pairedItem e =>
    if e.isPending then
      some "The referenced node may not have run yet; execute the previous nodes first"
    else some "The item lineage could not be followed back to the referenced node"
  | _ => none

/-- The node that an error names. -/
def node? : EvalError → Option String
  | pairedItem e => e.nodes.head?
  | _ => none

end EvalError

end TemplateExpr
