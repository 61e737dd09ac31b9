import Screening.Amount
import Screening.Document.Record
import Screening.Facts

/-!
# Transactions and users

The records that facts are usually made of: a transaction with its amount, and the user it belongs
to. They are read from documents and written as JSON with every field, and `Facts.ofRecords` makes
attribute values of them, in which a missing field is null.
-/

namespace Screening

/-- Where a payment is made. -/
inductive Channel where
  | web
  | mobile
  | pos
  | other
  deriving DecidableEq

/-- The name of a channel. -/
def Channel.label : Channel → String
  | .web => "WEB"
  | .mobile => "MOBILE"
  | .pos => "POS"
  | .other => "OTHER"

/-- The channel with this name. -/
def Channel.ofLabel? : String → Option Channel
  | "WEB" => some .web
  | "MOBILE" => some .mobile
  | "POS" => some .pos
  | "OTHER" => some .other
  | _ => none

/-- A place on earth. -/
structure Location where
  country : String
  city : Option String
  latitude : Option Binary64.Finite
  longitude : Option Binary64.Finite
  deriving DecidableEq

/-- A payment. -/
structure Transaction where
  amount : Amount
  currency : String
  merchantId : Option String
  merchantCategoryCode : Option String
  ipAddress : Option String
  deviceId : Option String
  channel : Option Channel
  location : Option Location
  deriving DecidableEq

/-- The owner of a payment. -/
structure User where
  age : Option UInt32
  region : Option String
  deriving DecidableEq

/-! ## Reading -/

/-- Reads a location. -/
def Location.read? (convention : Convention) (d : Document) : Option Location := do
  let fields ← d.fields? convention ["country", "city", "latitude", "longitude"]
  return {
    country := ← fields.required "country" Document.text?
    city := ← fields.optional "city" Document.text?
    latitude := ← fields.optional "latitude" Document.finite?
    longitude := ← fields.optional "longitude" Document.finite? }

/-- Reads a transaction. -/
def Transaction.read? (convention : Convention) (d : Document) : Option Transaction := do
  let fields ← d.fields? convention ["amount", "currency", "merchantId", "merchantCategoryCode",
    "ipAddress", "deviceId", "channel", "location"]
  return {
    amount := ← fields.required "amount" Amount.ofDocument?
    currency := ← fields.required "currency" Document.text?
    merchantId := ← fields.optional "merchantId" Document.text?
    merchantCategoryCode := ← fields.optional "merchantCategoryCode" Document.text?
    ipAddress := ← fields.optional "ipAddress" Document.text?
    deviceId := ← fields.optional "deviceId" Document.text?
    channel := ← fields.optional "channel" (Document.choice? convention Channel.ofLabel?)
    location := ← fields.optional "location" (Location.read? convention) }

/-- Reads a user. -/
def User.read? (convention : Convention) (d : Document) : Option User := do
  let fields ← d.fields? convention ["age", "region"]
  return {
    age := ← fields.optional "age" fun d =>
      (d.integerIn? 0 0x100000000).map fun i => UInt32.ofNat i.toNat
    region := ← fields.optional "region" Document.text? }

/-! ## Writing -/

/-- A location as JSON. -/
def Location.toJson (l : Location) : Json :=
  .object [
    ("country", .text l.country),
    ("city", .ofText? l.city),
    ("latitude", (l.latitude.map .float).getD .null),
    ("longitude", (l.longitude.map .float).getD .null)]

/-- A transaction as JSON; the amount is a text that keeps its decimals. -/
def Transaction.toJson (t : Transaction) : Json :=
  .object [
    ("amount", .text (String.ofList t.amount.render)),
    ("currency", .text t.currency),
    ("merchantId", .ofText? t.merchantId),
    ("merchantCategoryCode", .ofText? t.merchantCategoryCode),
    ("ipAddress", .ofText? t.ipAddress),
    ("deviceId", .ofText? t.deviceId),
    ("channel", .ofText? (t.channel.map Channel.label)),
    ("location", (t.location.map Location.toJson).getD .null)]

/-- A user as JSON. -/
def User.toJson (u : User) : Json :=
  .object [
    ("age", (u.age.map fun age => .ofNat age.toNat).getD .null),
    ("region", .ofText? u.region)]

/-! ## Attribute values -/

/-- A text as an attribute value, or null where there is none. -/
def Value.ofText? (s : Option String) : Value := (s.map .text).getD .null

/-- A finite number as an attribute value, or null where there is none. -/
def Value.ofFinite? (x : Option Binary64.Finite) : Value :=
  (x.map fun x => .float (.finite x)).getD .null

/-- A location as an attribute value. -/
def Location.toValue (l : Location) : Value :=
  Value.ofMembers [
    ("country", .text l.country),
    ("city", Value.ofText? l.city),
    ("latitude", Value.ofFinite? l.latitude),
    ("longitude", Value.ofFinite? l.longitude)]

/-- A transaction as an attribute value. -/
def Transaction.toValue (t : Transaction) : Value :=
  Value.ofMembers [
    ("amount", t.amount.toValue),
    ("currency", .text t.currency),
    ("merchantId", Value.ofText? t.merchantId),
    ("merchantCategoryCode", Value.ofText? t.merchantCategoryCode),
    ("ipAddress", Value.ofText? t.ipAddress),
    ("deviceId", Value.ofText? t.deviceId),
    ("channel", Value.ofText? (t.channel.map Channel.label)),
    ("location", (t.location.map Location.toValue).getD .null)]

/-- A user as an attribute value. -/
def User.toValue (u : User) : Value :=
  Value.ofMembers [
    ("age", (u.age.map fun age => .integer age.toUInt64.toInt64).getD .null),
    ("region", Value.ofText? u.region)]

/-- The facts that a transaction and its user state. -/
def Facts.ofRecords (transaction : Transaction) (user : User) : Facts :=
  ⟨transaction.toValue, user.toValue⟩

/-- The facts that JSON values state. -/
def Facts.ofJson (transaction user : Json) : Facts :=
  ⟨Value.ofJson transaction, Value.ofJson user⟩

end Screening
