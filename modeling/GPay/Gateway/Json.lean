import GPay.Doubles
import GPay.Gateway.KeyText
import GPay.Quarantine.State

/-!
# Request bodies

JSON values as a handler sees them after parsing, and the schemas it checks them
against. A schema collects the messages of every field that fails and reports them
under the fields' names.
-/

namespace GPay.Gateway

open Doubles Text
open Quarantine (DepositState)

variable {α : Type}

/-- A parsed JSON value; the members of an object have distinct names. A number is a double, as
in the language of the gateway. -/
inductive Json where
  | null
  | bool (value : Bool)
  | number (value : Double)
  | string (value : String)
  | array (items : List Json)
  | object (members : List (String × Json))

namespace Json

/-- An integer that is written into a response. -/
def integer (value : Int) : Json := .number (.finite value)

/-- A value that may be missing is written as `null` then. -/
def optional (write : α → Json) : Option α → Json
  | none => .null
  | some value => write value

/-- The value of a member, if the object has it. -/
def member (members : List (String × Json)) (name : String) : Option Json :=
  (members.find? (fun entry => entry.1 = name)).map Prod.snd

/-- The validator's name for the type of a value. -/
def parsedType : Json → String
  | .null => "null"
  | .bool _ => "boolean"
  | .number .nan => "nan"
  | .number _ => "number"
  | .string _ => "string"
  | .array _ => "array"
  | .object _ => "object"

end Json

/-- A field's value, or the messages of the checks it fails. -/
abbrev Field (α : Type) := Except (List String) α

/-- The message about a value of the wrong type, or none at all. -/
def wrongType (expected : String) : Option Json → String
  | none => "Required"
  | some value => s!"Expected {expected}, received {value.parsedType}"

/-- The messages of the checks that a value fails, in order. -/
def failures (checks : List ((α → Bool) × String)) (value : α) : List String :=
  (checks.filter (fun check => !check.1 value)).map Prod.snd

/-- A value with the checks that follow its type: it passes all of them, or every check that
fails is told. -/
def checked (checks : List ((α → Bool) × String)) (value : α) : Field α :=
  if failures checks value = [] then .ok value else .error (failures checks value)

/-- `z.string()` with further checks. -/
def stringField (checks : List ((String → Bool) × String)) : Option Json → Field String
  | some (.string text) => checked checks text
  | other => .error [wrongType "string" other]

/-- `z.number()` with further checks; an infinity is a number, an unordered value is not. -/
def numberField (checks : List ((Double → Bool) × String)) : Option Json → Field Double
  | some (.number .nan) => .error [wrongType "number" (some (.number .nan))]
  | some (.number value) => checked checks value
  | other => .error [wrongType "number" other]

/-- `.min(1)`. -/
def nonemptyText : (String → Bool) × String :=
  (fun text => text ≠ "", "String must contain at least 1 character(s)")

/-- The pattern of 64 hexadecimal digits, with its own message. -/
def hex32 : (String → Bool) × String := (isHex32, "32-byte hex")

/-- `/^\d+$/`. -/
def uintText : (String → Bool) × String :=
  (fun text => text.toList ≠ [] && text.toList.all Char.isDigit, "uint string")

/-- `.int()`. -/
def integral : (Double → Bool) × String := (Double.isInteger, "Expected integer, received float")

/-- `.min(..)` of a number. -/
def minimum (bound : Int) : (Double → Bool) × String :=
  (Double.atLeast bound, s!"Number must be greater than or equal to {bound}")

/-- `.max(..)` of a number. -/
def maximum (bound : Int) : (Double → Bool) × String :=
  (Double.atMost bound, s!"Number must be less than or equal to {bound}")

/-- The words of the states. -/
def stateText : DepositState → String
  | .pending => "pending"
  | .approved => "approved"
  | .rejected => "rejected"
  | .released => "released"
  | .refunded => "refunded"
  | .expired => "expired"

/-- The states in the order in which the schema lists them. -/
def states : List DepositState := [.pending, .approved, .rejected, .released, .refunded, .expired]

/-- The options of the state as a message lists them. -/
def stateOptions : String := " | ".intercalate (states.map (fun state => s!"'{stateText state}'"))

/-- `z.enum` of the states. -/
def stateField : Option Json → Field DepositState
  | some (.string text) =>
      match states.find? (fun state => stateText state = text) with
      | some state => .ok state
      | none => .error [s!"Invalid enum value. Expected {stateOptions}, received '{text}'"]
  | other => .error [wrongType stateOptions other]

/-- A field's entry in a formatted error. -/
def fieldError (name : String) (field : Field α) : List (String × Json) :=
  match field with
  | .ok _ => []
  | .error messages => [(name, .object [("_errors", .array (messages.map .string))])]

/-- `error.format()`. -/
def formatError (top : List String) (fields : List (String × Json)) : Json :=
  .object (("_errors", .array (top.map .string)) :: fields)

/-- `z.object`: anything else is refused as a whole, and other members are dropped. -/
def parseObject (parse : List (String × Json) → Except (List (String × Json)) α) :
    Json → Except Json α
  | .object members => (parse members).mapError (formatError [])
  | other => .error (formatError [wrongType "object" (some other)] [])

/-- The body of a request for an address, checked. Its amount stays the text that was sent, and
the time to its expiry is in seconds. -/
structure ReceivingAddressBody where
  customerId : String
  amountHint : String
  mint : String
  expireSeconds : Double
  refundAddrHex : String

/-- The schema of that body; every field that fails is told. -/
def ReceivingAddressBody.safeParse : Json → Except Json ReceivingAddressBody :=
  parseObject fun members =>
    let customerId := stringField [nonemptyText] (Json.member members "customer_id")
    let amountHint := stringField [uintText] (Json.member members "amount_hint")
    let mint := stringField [nonemptyText] (Json.member members "mint")
    let expireSeconds := numberField [integral, minimum 60, maximum (60 * 60 * 24 * 30)]
      (Json.member members "expire_seconds")
    let refundAddrHex := stringField [hex32] (Json.member members "refund_addr_hex")
    match customerId, amountHint, mint, expireSeconds, refundAddrHex with
    | .ok customerId, .ok amountHint, .ok mint, .ok expireSeconds, .ok refundAddrHex =>
        .ok ⟨customerId, amountHint, mint, expireSeconds, refundAddrHex⟩
    | customerId, amountHint, mint, expireSeconds, refundAddrHex =>
        .error (fieldError "customer_id" customerId ++ fieldError "amount_hint" amountHint ++
          fieldError "mint" mint ++ fieldError "expire_seconds" expireSeconds ++
          fieldError "refund_addr_hex" refundAddrHex)

/-- The body of a release. -/
structure ReleaseBody where
  depositId : String
  targetAddrHex : String

/-- The schema of that body. -/
def ReleaseBody.safeParse : Json → Except Json ReleaseBody :=
  parseObject fun members =>
    let depositId := stringField [nonemptyText] (Json.member members "deposit_id")
    let targetAddrHex := stringField [hex32] (Json.member members "target_addr_hex")
    match depositId, targetAddrHex with
    | .ok depositId, .ok targetAddrHex => .ok ⟨depositId, targetAddrHex⟩
    | depositId, targetAddrHex =>
        .error (fieldError "deposit_id" depositId ++ fieldError "target_addr_hex" targetAddrHex)

/-- The body of a refund. -/
structure RefundBody where
  depositId : String

/-- The schema of that body. -/
def RefundBody.safeParse : Json → Except Json RefundBody :=
  parseObject fun members =>
    match stringField [nonemptyText] (Json.member members "deposit_id") with
    | .ok depositId => .ok ⟨depositId⟩
    | depositId => .error (fieldError "deposit_id" depositId)

/-- The body of a delivery, checked. The slice is not read any further, and the key of the
deposit's account is only written down. -/
structure InternalMatchBody where
  sliceId : Double
  depositPubkey : String
  stealthPubkey : String
  amount : Double
  state : DepositState

/-- The schema of that body. Its amount is a number, and so a double. -/
def InternalMatchBody.safeParse : Json → Except Json InternalMatchBody :=
  parseObject fun members =>
    let sliceId := numberField [] (Json.member members "slice_id")
    let depositPubkey := stringField [] (Json.member members "deposit_pubkey")
    let stealthPubkey := stringField [] (Json.member members "stealth_pubkey")
    let amount := numberField [integral, minimum 0] (Json.member members "amount")
    let state := stateField (Json.member members "state")
    match sliceId, depositPubkey, stealthPubkey, amount, state with
    | .ok sliceId, .ok depositPubkey, .ok stealthPubkey, .ok amount, .ok state =>
        .ok ⟨sliceId, depositPubkey, stealthPubkey, amount, state⟩
    | sliceId, depositPubkey, stealthPubkey, amount, state =>
        .error (fieldError "slice_id" sliceId ++ fieldError "deposit_pubkey" depositPubkey ++
          fieldError "stealth_pubkey" stealthPubkey ++ fieldError "amount" amount ++
          fieldError "state" state)

/-- White space and line ends, which surround a number. -/
def isSpace (char : Char) : Bool :=
  char.toNat ∈ [0x9, 0xa, 0xb, 0xc, 0xd, 0x20, 0xa0, 0x1680, 0x2028, 0x2029, 0x202f, 0x205f,
      0x3000, 0xfeff] ∨
    (0x2000 ≤ char.toNat ∧ char.toNat ≤ 0x200a)

/-- A text without the space around it, as a number is read from it. -/
def trim (text : List Char) : List Char :=
  ((text.dropWhile isSpace).reverse.dropWhile isSpace).reverse

/-- A number written in a base of at most 16, with at least one digit. -/
def naturalIn (base : Nat) (text : List Char) : Option Nat :=
  match text.mapM (fun char => (hexAlphabet.digit char.toLower).filter (· < base)) with
  | none | some [] => none
  | some digits => some (Nat.ofDigits base digits.reverse)

/-- The exponent of a decimal number, behind its letter. -/
def exponentOf : List Char → Option Int
  | '-' :: digits => (naturalIn 10 digits).map (fun value => -(value : Int))
  | '+' :: digits => (naturalIn 10 digits).map Int.ofNat
  | digits => (naturalIn 10 digits).map Int.ofNat

/-- A decimal number without a sign: digits around an optional point, then an
optional exponent. -/
def unsignedDecimal (text : List Char) : Option ℚ :=
  let (mantissa, tail) := text.span (fun char => char ≠ 'e' ∧ char ≠ 'E')
  let (whole, rest) := mantissa.span (· ≠ '.')
  let fraction := rest.drop 1
  let exponent := if tail = [] then some 0 else exponentOf (tail.drop 1)
  match naturalIn 10 (whole ++ fraction), exponent with
  | some digits, some exponent => some (digits * 10 ^ (exponent - fraction.length))
  | _, _ => none

/-- A number with an optional sign in front. -/
def signedDecimal (negative : Bool) (text : List Char) : Double :=
  if text = "Infinity".toList then .infinity negative
  else match unsignedDecimal text with
    | none => .nan
    | some value => nearest (if negative then -value else value)

/-- `Number(text)`. -/
def numberOf (text : String) : Double :=
  let radix := fun (base : Nat) (digits : List Char) =>
    match naturalIn base digits with
    | none => Double.nan
    | some value => nearest value
  match trim text.toList with
  | [] => .finite 0
  | '0' :: 'x' :: digits | '0' :: 'X' :: digits => radix 16 digits
  | '0' :: 'o' :: digits | '0' :: 'O' :: digits => radix 8 digits
  | '0' :: 'b' :: digits | '0' :: 'B' :: digits => radix 2 digits
  | '-' :: rest => signedDecimal true rest
  | '+' :: rest => signedDecimal false rest
  | rest => signedDecimal false rest

example : numberOf " 12.5e1 " = .finite 125 := by decide +kernel

/-- A value is accepted as it is, if and only if it passes every check. -/
theorem checked_ok_iff {checks : List ((α → Bool) × String)} {value accepted : α} :
    checked checks value = .ok accepted ↔
      value = accepted ∧ ∀ check ∈ checks, check.1 value = true := by
  have passed : failures checks value = [] ↔ ∀ check ∈ checks, check.1 value = true := by
    rw [failures, List.map_eq_nil_iff, List.filter_eq_nil_iff]
    simp
  unfold checked
  rw [← passed]
  split
  · rename_i clean
    simp [clean]
  · rename_i failing
    simp [failing]

/-- A text that is accepted was sent, and passes every check. -/
theorem string_field_sent {checks : List ((String → Bool) × String)} {field : Option Json}
    {text : String} (accepted : stringField checks field = .ok text) :
    field = some (.string text) ∧ ∀ check ∈ checks, check.1 text = true := by
  unfold stringField at accepted
  split at accepted
  · obtain ⟨rfl, passed⟩ := checked_ok_iff.mp accepted
    exact ⟨rfl, passed⟩
  · cases accepted

/-- A number that is accepted was sent, and passes every check. -/
theorem number_field_sent {checks : List ((Double → Bool) × String)} {field : Option Json}
    {value : Double} (accepted : numberField checks field = .ok value) :
    field = some (.number value) ∧ ∀ check ∈ checks, check.1 value = true := by
  unfold numberField at accepted
  split at accepted
  · cases accepted
  · obtain ⟨rfl, passed⟩ := checked_ok_iff.mp accepted
    exact ⟨rfl, passed⟩
  · cases accepted

/-- A body that is accepted as a request for an address is an object, and its fields are
the members of their names. -/
theorem receiving_address_body_sent {body : Json} {parsed : ReceivingAddressBody}
    (accepted : ReceivingAddressBody.safeParse body = .ok parsed) :
    ∃ members, body = .object members ∧
      stringField [nonemptyText] (Json.member members "customer_id") = .ok parsed.customerId ∧
      stringField [uintText] (Json.member members "amount_hint") = .ok parsed.amountHint ∧
      stringField [nonemptyText] (Json.member members "mint") = .ok parsed.mint ∧
      numberField [integral, minimum 60, maximum (60 * 60 * 24 * 30)]
        (Json.member members "expire_seconds") = .ok parsed.expireSeconds ∧
      stringField [hex32] (Json.member members "refund_addr_hex") = .ok parsed.refundAddrHex := by
  cases body with
  | object members =>
    refine ⟨members, rfl, ?_⟩
    simp only [ReceivingAddressBody.safeParse, parseObject] at accepted
    split at accepted
    · rename_i customerId amountHint mint expireSeconds refundAddrHex
      obtain rfl := Except.ok.inj accepted
      exact ⟨customerId, amountHint, mint, expireSeconds, refundAddrHex⟩
    · cases accepted
  | _ => cases accepted

/-- A rational number that passes its checks is accepted. -/
theorem number_field_ok {checks : List ((Double → Bool) × String)} {value : ℚ}
    (passes : ∀ check ∈ checks, check.1 (.finite value) = true) :
    numberField checks (some (.number (.finite value))) = .ok (.finite value) := by
  have none : failures checks (.finite value) = [] := by
    rw [failures, List.map_eq_nil_iff, List.filter_eq_nil_iff]
    intro check member
    simp [passes check member]
  simp [numberField, checked, none]

/-- The word of a state is read as the state. -/
theorem state_field_text (state : DepositState) :
    stateField (some (.string (stateText state))) = .ok state := by
  cases state <;> decide +kernel

end GPay.Gateway
