/-
The enumerated fields of the protocol.

An enumerator travels as a 32-bit signed integer.  Reading is strict: an integer that
no enumerator carries is refused, so `ofCode?` is the exact inverse of `code`.
-/

namespace WrenchLink

/-- How a board reports the outcome of a command. -/
inductive BoardReturnCode where
  | ok
  | err
  deriving DecidableEq, Repr, Inhabited

inductive ProtocolVersion where
  | release
  deriving DecidableEq, Repr, Inhabited

/-- Whether a board broadcasts its samples. -/
inductive SampleStreamPolicy where
  | off
  | normal
  deriving DecidableEq, Repr, Inhabited

/-- How a board reports the outcome of setting its hardware address. -/
inductive MacAddressReturnCode where
  | ok
  | err
  deriving DecidableEq, Repr, Inhabited

/-- The enumerations that fields are drawn from. -/
inductive Enumeration where
  | boardReturnCode
  | protocolVersion
  | sampleStreamPolicy
  | macAddressReturnCode
  deriving DecidableEq, Repr

namespace Enumeration

def all : List Enumeration :=
  [boardReturnCode, protocolVersion, sampleStreamPolicy, macAddressReturnCode]

/-- The name of the enumeration, as a refusal of a value states it. -/
def name : Enumeration → String
  | boardReturnCode => "BoardReturnCode"
  | protocolVersion => "ProtocolVersion"
  | sampleStreamPolicy => "SampleStreamPolicy"
  | macAddressReturnCode => "MacAddressReturnCode"

def Value : Enumeration → Type
  | boardReturnCode => BoardReturnCode
  | protocolVersion => ProtocolVersion
  | sampleStreamPolicy => SampleStreamPolicy
  | macAddressReturnCode => MacAddressReturnCode

instance : (e : Enumeration) → DecidableEq e.Value
  | boardReturnCode => inferInstanceAs (DecidableEq BoardReturnCode)
  | protocolVersion => inferInstanceAs (DecidableEq ProtocolVersion)
  | sampleStreamPolicy => inferInstanceAs (DecidableEq SampleStreamPolicy)
  | macAddressReturnCode => inferInstanceAs (DecidableEq MacAddressReturnCode)

instance : (e : Enumeration) → Repr e.Value
  | boardReturnCode => inferInstanceAs (Repr BoardReturnCode)
  | protocolVersion => inferInstanceAs (Repr ProtocolVersion)
  | sampleStreamPolicy => inferInstanceAs (Repr SampleStreamPolicy)
  | macAddressReturnCode => inferInstanceAs (Repr MacAddressReturnCode)

/-- Every enumerator, the default first. -/
def values : (e : Enumeration) → List e.Value
  | boardReturnCode => [BoardReturnCode.ok, BoardReturnCode.err]
  | protocolVersion => [ProtocolVersion.release]
  | sampleStreamPolicy => [SampleStreamPolicy.off, SampleStreamPolicy.normal]
  | macAddressReturnCode => [MacAddressReturnCode.ok, MacAddressReturnCode.err]

def default : (e : Enumeration) → e.Value
  | boardReturnCode => BoardReturnCode.ok
  | protocolVersion => ProtocolVersion.release
  | sampleStreamPolicy => SampleStreamPolicy.off
  | macAddressReturnCode => MacAddressReturnCode.ok

def code : (e : Enumeration) → e.Value → Nat
  | boardReturnCode, BoardReturnCode.ok => 0
  | boardReturnCode, BoardReturnCode.err => 1
  | protocolVersion, ProtocolVersion.release => 1
  | sampleStreamPolicy, SampleStreamPolicy.off => 0
  | sampleStreamPolicy, SampleStreamPolicy.normal => 1
  | macAddressReturnCode, MacAddressReturnCode.ok => 0
  | macAddressReturnCode, MacAddressReturnCode.err => 1

def ofCode? : (e : Enumeration) → Nat → Option e.Value
  | boardReturnCode, 0 => some BoardReturnCode.ok
  | boardReturnCode, 1 => some BoardReturnCode.err
  | protocolVersion, 1 => some ProtocolVersion.release
  | sampleStreamPolicy, 0 => some SampleStreamPolicy.off
  | sampleStreamPolicy, 1 => some SampleStreamPolicy.normal
  | macAddressReturnCode, 0 => some MacAddressReturnCode.ok
  | macAddressReturnCode, 1 => some MacAddressReturnCode.err
  | _, _ => none

def enumeratorName : (e : Enumeration) → e.Value → String
  | boardReturnCode, BoardReturnCode.ok => "Ok"
  | boardReturnCode, BoardReturnCode.err => "Err"
  | protocolVersion, ProtocolVersion.release => "Release"
  | sampleStreamPolicy, SampleStreamPolicy.off => "Off"
  | sampleStreamPolicy, SampleStreamPolicy.normal => "Normal"
  | macAddressReturnCode, MacAddressReturnCode.ok => "Ok"
  | macAddressReturnCode, MacAddressReturnCode.err => "Err"

def ofName? (e : Enumeration) (name : String) : Option e.Value :=
  e.values.find? fun v => e.enumeratorName v == name

theorem code_lt (e : Enumeration) (v : e.Value) : e.code v < 2 := by
  cases e <;> cases v <;> decide

@[simp] theorem ofCode?_code (e : Enumeration) (v : e.Value) : e.ofCode? (e.code v) = some v := by
  cases e <;> cases v <;> rfl

theorem code_of_ofCode? {e : Enumeration} {n : Nat} {v : e.Value} (h : e.ofCode? n = some v) :
    e.code v = n := by
  unfold ofCode? at h
  split at h <;> cases h <;> rfl

end Enumeration
end WrenchLink
