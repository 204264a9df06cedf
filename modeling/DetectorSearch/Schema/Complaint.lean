/-! # Complaints about fields

What can be wrong with one field of a record that is read from data of no fixed shape. The kinds
are types of error that pydantic documents.
-/

namespace DetectorSearch

/-- What is wrong with one field. -/
inductive Complaint where
  | missing
  | notText
  /-- A text, or bytes, that UTF-8 does not have. -/
  | notUnicode
  | notFlag
  | unreadableFlag
  | notInteger
  | unreadableInteger
  | fractionInInteger
  | notFinite
  | integerTooLong
  | notReal
  | unreadableReal
  | notAmongWords
  | notObject
  | notRecord
  deriving DecidableEq, Repr

/-- The code word of a complaint. -/
def Complaint.code : Complaint → String
  | missing => "missing"
  | notText => "string_type"
  | notUnicode => "string_unicode"
  | notFlag => "bool_type"
  | unreadableFlag => "bool_parsing"
  | notInteger => "int_type"
  | unreadableInteger => "int_parsing"
  | fractionInInteger => "int_from_float"
  | notFinite => "finite_number"
  | integerTooLong => "int_parsing_size"
  | notReal => "float_type"
  | unreadableReal => "float_parsing"
  | notAmongWords => "literal_error"
  | notObject => "dict_type"
  | notRecord => "model_type"

/-- Complaints with the path of keys that leads to each field. -/
abbrev Complaints := List (List String × Complaint)

end DetectorSearch
