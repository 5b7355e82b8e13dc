import Tela.Shell.AuditQuery

/-!
# Audit command

The filter of the `audit` command over the entries that the gateway reports.
-/

namespace Tela

/-- `_filter_entries`: only the text given for `since` is read under a handler. -/
def filterEntries (clock : AuditClock) (entries : List AuditEntry) (since : Option String)
    (limit : Int) : Except PyException (Except String (List AuditEntry)) :=
  match since with
  | none => .ok (.ok (sliceFrom entries (-limit)))
  | some text =>
      match clock.parse text with
      | .error exc =>
          if exc.kind == .valueError then .ok (.error (invalidTimestamp text)) else .error exc
      | .ok moment => do
          let kept ← clock.since moment entries
          return .ok (sliceFrom kept (-limit))

end Tela
