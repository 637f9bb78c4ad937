import Deckwright.Filter.Mode
import Deckwright.Misread
set_option autoImplicit false

namespace Deckwright

inductive OperandFault where
  | notWanted
  | number (e : Binary64.ReadFault)
  | notFinite (x : Binary64)
  | minusZero
  | option (value : String)
  | pattern
  | misread (e : Misread)
  | braceExpected
  | braceUnclosed
  | afterSet (rest : String)
  | unsuited (mode : String)
deriving DecidableEq

inductive BracketFault where
  | openExpected
  | textAfterClose
  | unbalanced
  | emptyGroup
  | between (c : Char)
  | nothingTaken (code : String)
  | colonExpected (body : String)
  | modeExpected (body : String)
deriving DecidableEq

inductive RecordFault where
  | recordExpected
  | key (key : String)
  | groupMode (keyword : String)
deriving DecidableEq

inductive FilterFault where
  | unknownAspect (code : String)
  | bracketed (input : String) (e : BracketFault)
  | operand (code value : String) (e : OperandFault)
  | mode (code mode : String)
  | emptyGroup
  | record (e : RecordFault)
deriving DecidableEq

namespace OperandFault

def message : OperandFault → String
  | .notWanted => "this mode takes no operand"
  | .number e => e.message
  | .notFinite x => x.toText ++ " is not a finite number"
  | .minusZero => "-0 is not a valid number, use 0"
  | .option v => s!"option \"{v}\" is empty or has surrounding whitespace"
  | .pattern => "<regex>"
  | .misread e => e.message
  | .braceExpected => "expected '\x7b'"
  | .braceUnclosed => "expected '\x7d'"
  | .afterSet rest => s!"unexpected \"{rest}\" after set"
  | .unsuited mode => s!"operand does not suit mode \"{mode}\""

end OperandFault

namespace BracketFault

def message : BracketFault → String
  | .openExpected => "expected '<'"
  | .textAfterClose => "unexpected text after closing '>'"
  | .unbalanced => "unbalanced '<' and '>'"
  | .emptyGroup => "group has no filters"
  | .between c => s!"unexpected '{c}' between filters"
  | .nothingTaken code => s!"field \"{code}\" takes no mode or operand"
  | .colonExpected body => s!"expected ':' after field code in \"{body}\""
  | .modeExpected body => s!"missing mode in \"{body}\""

end BracketFault

namespace RecordFault

def message : RecordFault → String
  | .recordExpected => "expected an object"
  | .key k => s!"missing or mistyped key \"{k}\""
  | .groupMode k => s!"unknown group mode \"{k}\""

end RecordFault

namespace FilterFault

def message : FilterFault → String
  | .unknownAspect code => s!"unknown filter field code \"{code}\""
  | .bracketed input e => s!"malformed filter string \"{input}\": {e.message}"
  | .operand code value e => s!"invalid operand \"{value}\" for {code}: {e.message}"
  | .mode code m => s!"mode \"{m}\" is not valid for {code}"
  | .emptyGroup => "filter groups must contain at least one filter"
  | .record e => s!"malformed filter object: {e.message}"

end FilterFault

end Deckwright
