import Logbook.Inquiry.Basic
import Logbook.Proofs.Search.OfQuery

/-!
# What an inquiry comes down to

An inquiry at an instant has a search, or a fault that it is refused for, or it asks about a day
that has no date: `Inquiry.search_eq_overflow_iff` says when that is (`Inquiry.LeavesCalendar`).
-/

set_option autoImplicit false

namespace Logbook

theorem Search.latestMonitoring_eq_error_iff {scheme : PartitionScheme} {gateway : String}
    {now : Int64} {overflow : Overflow} :
    latestMonitoring scheme gateway now = .error overflow ↔
      localDay? scheme.offset now.toInt = none ∧ overflow = .date := by
  have hnone : scheme.partitionAt? now = none ↔ localDay? scheme.offset now.toInt = none :=
    Option.map_eq_none_iff
  rw [← hnone, latestMonitoring]
  split
  · rename_i htoday
    rw [Except.error.injEq, eq_comm, htoday, eq_self, true_and]
  · rename_i htoday
    rw [htoday]
    exact ⟨nofun, nofun⟩

namespace Inquiry

/-- A day that an inquiry asks about at an instant has no date. -/
def LeavesCalendar (offset : Offset) (now : Int64) : Inquiry → Prop
  | query subject content =>
    ((subject.ofQuestion content.question).complete now content).LeavesCalendar offset
  | monitoring _ => localDay? offset now.toInt = none
  | requestLog _ | healthCheck _ => False

/-- An inquiry that is not refused has no search just where a day has no date. -/
theorem search_eq_overflow_iff {inquiry : Inquiry} {scheme : PartitionScheme} {now : Int64}
    {overflow : Overflow} :
    inquiry.search scheme now = .error (.overflow overflow) ↔
      inquiry.LeavesCalendar scheme.offset now ∧ overflow = .date := by
  cases inquiry with
  | query subject content => exact Search.ofQuery_eq_overflow_iff
  | requestLog id => exact ⟨nofun, nofun⟩
  | healthCheck id => exact ⟨nofun, nofun⟩
  | monitoring gateway =>
    exact Halt.mapError_overflow_eq_overflow_iff.trans Search.latestMonitoring_eq_error_iff

end Inquiry

end Logbook
