import Casskop.BackRest.Backup
import Casskop.Controller.Scaling

/-!
# Bandwidth limits

The bandwidth of a backup is a number with a unit.  `dataRateFromBandwidth` drops the error of
the number and narrows it, and `PerformBackup` drops the error of `dataRateFromBandwidth`.
-/

namespace Casskop

/-- The limit a bandwidth asks for: none, or a number of 32 bits with a unit. -/
inductive AsksForLimit (bandwidth : String) : Option DataRate → Prop where
  | unlimited (empty : withoutSpaces bandwidth = "") : AsksForLimit bandwidth none
  | limited (digits unit : List Char)
      (text : (withoutSpaces bandwidth).toList = digits ++ unit) (nonempty : digits ≠ [])
      (decimal : ∀ digit ∈ digits, digit.isDigit = true)
      (known : unit.map Char.toUpper ∈ [[], ['K'], ['M'], ['G']])
      (fits : Nat.ofDigitChars 10 digits 0 < 2 ^ 31) :
      AsksForLimit bandwidth
        (some { value := Nat.ofDigitChars 10 digits 0
                unit := String.ofList (unit.map Char.toUpper) ++ "BPS" })

/-- What `PerformBackup` sends and returns. -/
structure PerformedBackup where
  sent : List BackupOperationRequest
  result : Except Unit String

def performBackup (cb : CassandraBackup) (answer : Delivery OperationResponse) :
    PerformedBackup :=
  { sent := [backupOperationRequest cb]
    result := match answer with
      | .answered response => .ok response.id
      | .refused | .lost => .error () }

/-- The passes send what `PerformBackup` sends. -/
theorem BackupWorld.submit_sent {world : BackupWorld} {index : Nat} {task : BackgroundBackup}
    (found : world.running[index]? = some task) (waiting : task.operation = none)
    (answer : Delivery OperationResponse) :
    (world.submit index answer).sent =
      world.sent ++ (performBackup task.backup answer).sent.map (⟨task.backup, ·⟩) := by
  simp [BackupWorld.submit, found, waiting, performBackup]

/-- Bandwidths mean what they say, and no backup is sent with another limit. -/
structure BandwidthExact (bandwidth : String) : Prop where
  parses : ∀ limit, AsksForLimit bandwidth limit → dataRateFromBandwidth bandwidth = .ok limit
  rejects : (∀ limit, ¬ AsksForLimit bandwidth limit) →
    ∃ error, dataRateFromBandwidth bandwidth = .error error
  sends : ∀ cb answer, cb.spec.bandwidth = bandwidth →
    ∀ request ∈ (performBackup cb answer).sent, AsksForLimit bandwidth request.bandwidth

theorem toUpper_of_isDigit {char : Char} (digit : char.isDigit = true) : char.toUpper = char := by
  simp only [Char.isDigit, Bool.and_eq_true, decide_eq_true_eq] at digit
  have notLetter : ¬ (char.val ≥ 'a'.val ∧ char.val ≤ 'z'.val) := by
    rintro ⟨low, _⟩
    exact absurd (UInt32.le_trans low digit.2) (by decide)
  exact dif_neg notLetter

theorem AsksForLimit.stripped {bandwidth : String} {limit : Option DataRate}
    (asks : AsksForLimit bandwidth limit) : AsksForLimit (withoutSpaces bandwidth) limit := by
  have same : withoutSpaces (withoutSpaces bandwidth) = withoutSpaces bandwidth := by
    simp [withoutSpaces]
  cases asks with
  | unlimited empty => exact .unlimited (same.trans empty)
  | limited digits unit text nonempty decimal known fits =>
    exact .limited digits unit (by rw [same, text]) nonempty decimal known fits

theorem AsksForLimit.parsed {bandwidth : String} {limit : Option DataRate}
    (asks : AsksForLimit bandwidth limit) : dataRateFromBandwidth bandwidth = .ok limit := by
  cases asks with
  | unlimited empty => simp [dataRateFromBandwidth, empty]
  | limited digits unit text nonempty decimal known fits =>
    have upper : digits.map Char.toUpper = digits := by
      rw [List.map_congr_left fun digit member => toUpper_of_isDigit (decimal digit member),
        List.map_id']
    have value : int32 (atoi digits) = Nat.ofDigitChars 10 digits 0 := by
      unfold atoi
      rw [int32_eq] <;> omega
    unfold dataRateFromBandwidth
    rw [text, List.map_append, upper]
    generalize unit.map Char.toUpper = unit at known
    simp only [List.mem_cons, List.not_mem_nil, or_false] at known
    have split : (digits ++ unit).takeWhile Char.isDigit = digits ∧
        (digits ++ unit).dropWhile Char.isDigit = unit := by
      rw [List.takeWhile_append_of_pos decimal, List.dropWhile_append_of_pos decimal]
      rcases known with rfl | rfl | rfl | rfl <;> simp
    simp only [split.1, split.2, value]
    rcases known with rfl | rfl | rfl | rfl <;> simp [nonempty]

def limitedBackup (bandwidth : String) : CassandraBackup :=
  { name := "nightly", ns := "team-a"
    spec := { cassandraCluster := "demo", storageLocation := "s3://demo", snapshotTag := "daily"
              bandwidth := bandwidth } }

/-- Limits are exact where one is asked for: all other bandwidths are sent as some limit. -/
theorem bandwidthExact_iff (bandwidth : String) :
    BandwidthExact bandwidth ↔ ∃ limit, AsksForLimit bandwidth limit := by
  constructor
  · intro exactly
    exact ⟨_, exactly.sends (limitedBackup bandwidth) .refused rfl _ List.mem_cons_self⟩
  · rintro ⟨limit, asks⟩
    refine ⟨fun _ other => other.parsed, fun none => absurd asks (none limit), ?_⟩
    rintro cb answer rfl request member
    rw [List.mem_singleton.mp member]
    unfold backupOperationRequest
    rw [asks.stripped.parsed]
    exact asks

/-- A number of 33 bits is cut to 1, and a unit that is rejected leaves no limit. -/
theorem bandwidth_cut_and_dropped :
    dataRateFromBandwidth "4294967297" = .ok (some { value := 1, unit := "BPS" }) ∧
      dataRateFromBandwidth "10T" = .error "Format of 10T not supported" ∧
      (performBackup (limitedBackup "10T") .refused).sent.map (·.bandwidth) = [none] := by
  decide +kernel

end Casskop
