import PypnmCmts.PyText

/-! `config/owner_id_resolver.py`. -/
namespace PypnmCmts.OwnerIdResolver

def defaultOwnerId : String := "unknown"

/-- `hostname` is what `socket.gethostname` returns, `none` when it raises. -/
def deriveOwnerId (hostname : Option String) : String :=
  let name := (hostname.map PyText.strip).getD ""
  if name = "" then defaultOwnerId else name

def resolve (explicitOwnerId : Option String) (hostname : Option String) : String :=
  match explicitOwnerId with
  | some value =>
    let ownerValue := PyText.strip value
    if ownerValue ≠ "" then ownerValue else deriveOwnerId hostname
  | none => deriveOwnerId hostname

theorem strip_deriveOwnerId (hostname : Option String) :
    PyText.strip (deriveOwnerId hostname) = deriveOwnerId hostname := by
  simp only [deriveOwnerId]
  split
  · decide
  · cases hostname with
    | none => decide
    | some name => exact PyText.strip_strip name

theorem deriveOwnerId_nonempty (hostname : Option String) : deriveOwnerId hostname ≠ "" := by
  simp only [deriveOwnerId]
  split
  · decide
  · assumption

/-- A resolved owner id is what the leases are kept under. -/
theorem strip_resolve (explicitOwnerId hostname : Option String) :
    PyText.strip (resolve explicitOwnerId hostname) = resolve explicitOwnerId hostname := by
  cases explicitOwnerId with
  | none => exact strip_deriveOwnerId hostname
  | some value =>
    simp only [resolve]
    split
    · exact PyText.strip_strip value
    · exact strip_deriveOwnerId hostname

theorem resolve_nonempty (explicitOwnerId hostname : Option String) :
    resolve explicitOwnerId hostname ≠ "" := by
  cases explicitOwnerId with
  | none => exact deriveOwnerId_nonempty hostname
  | some value =>
    simp only [resolve]
    split
    · assumption
    · exact deriveOwnerId_nonempty hostname

end PypnmCmts.OwnerIdResolver
