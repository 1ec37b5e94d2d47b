import DeviceWatch.Alert.Basic
import DeviceWatch.Sha256

/-!
The identity of the condition that a finding reports.

Only stable parts take part: the source system, the device, the type of alert and the attributes.
Case and spacing do not matter.  `identityText` is the text that is hashed.
-/

namespace DeviceWatch

/-- Lower case, with single blanks between words and none around them. -/
def normalize (s : String) : String :=
  Text.lowercase (" ".intercalate ((Text.words s).map String.ofList))

namespace Finding

/-- The address of the device unless it is blank, else its name. -/
def device (f : Finding) : Option String :=
  (f.deviceIp.filter fun ip => !Text.isBlankText ip).orElse fun _ => f.deviceName

def deviceIdentity (f : Finding) : String := (f.device.map normalize).getD ""

def attributeLines (f : Finding) : List String :=
  f.attributes.entries.map fun (k, v) => normalize k ++ "=" ++ normalize v

/-- The text that identifies a condition: one line for each part. -/
def identityText (f : Finding) : String :=
  "\n".intercalate
    (normalize f.sourceSystem :: f.deviceIdentity :: normalize f.alertType :: f.attributeLines)

def fingerprint (f : Finding) : String := Sha256.ofText f.identityText

end Finding

end DeviceWatch
