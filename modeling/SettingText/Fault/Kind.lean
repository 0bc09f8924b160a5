/-!
Kinds of errors. A parser that meets a text it does not understand fails with a parse error; every
other error is a defect of the program or of what was plugged into it, and passes through.
-/

namespace SettingText

/-- The kind of an error. -/
inductive ErrorKind where
  | value | type | lookup | key | index | overflow | zeroDivision | invalidOperation
  | validation | typeExpression | settings | invalidConfig
  | noAttribute | runtime | os | notImplemented | assertion | frozenInstance
  deriving DecidableEq, Repr

namespace ErrorKind

def name : ErrorKind → String
  | value => "ValueError"
  | type => "TypeError"
  | lookup => "LookupError"
  | key => "KeyError"
  | index => "IndexError"
  | overflow => "OverflowError"
  | zeroDivision => "ZeroDivisionError"
  | invalidOperation => "InvalidOperation"
  | validation => "ValidationError"
  | typeExpression => "TypeExpressionError"
  | settings => "SettingsError"
  | invalidConfig => "InvalidConfig"
  | noAttribute => "AttributeError"
  | runtime => "RuntimeError"
  | os => "OSError"
  | notImplemented => "NotImplementedError"
  | assertion => "AssertionError"
  | frozenInstance => "FrozenInstanceError"

/-- The kinds that say that a text does not parse. -/
def isParseError : ErrorKind → Bool
  | value | type | lookup | key | index | overflow | zeroDivision | invalidOperation
  | validation | typeExpression | settings | invalidConfig => true
  | noAttribute | runtime | os | notImplemented | assertion | frozenInstance => false

end ErrorKind

end SettingText
