import ApiContract.Format.Address
import ApiContract.Format.Base64
import ApiContract.Format.Calendar
import ApiContract.Format.Uuid

/-!
# Formats

The formats of strings that are enforced.  A format without a rule accepts
every string.
-/

namespace ApiContract
namespace Format

/-- The rule of a format. -/
def rule? (format : String) : Option (List Char → Bool) :=
  [("date-time", Calendar.isDateTime), ("date", Calendar.isFullDate), ("uuid", Uuid.isUuid),
    ("byte", Base64.isEncoded), ("email", Address.isEmail), ("ipv4", Address.isIpv4),
    ("ipv6", Address.isIpv6)].lookup format

/-- Whether a string satisfies a format. -/
def isValid (format value : String) : Bool :=
  match rule? format with
  | some rule => rule value.toList
  | none => true

end Format
end ApiContract
