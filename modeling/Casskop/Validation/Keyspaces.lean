import Casskop.Library.FieldSearch
import Casskop.Validation.ScaleDown

/-!
# Keyspaces with data in a DC

`NonLocalKeyspacesInDC` asks a node for the token ranges of every keyspace and searches each
of them, as a text, for `datacenter:` followed by the name of the DC.  Nothing ends the
pattern, so a DC whose name starts with the one asked for is found too.
-/

namespace Casskop

/-- Characters with a meaning in a regular expression, and the comma. -/
def specialChars : List Char := "\\.+*?()|[]\x7b\x7d^$,".toList

/-- A name that is also its own regular expression, and that ends before a comma. -/
structure DCName where
  name : String
  plain : (name.toList.all fun c => !specialChars.contains c) = true

/-- The DC of a rack the operator accepts has such a name. -/
def DCName.ofLabel (dcName rackName : String)
    (valid : regexDCRackName (dcName ++ "-" ++ rackName) = true) : DCName where
  name := dcName
  plain := by
    have foreign : (specialChars.all fun c =>
        !(c == '-' || decide ('a' ≤ c ∧ c ≤ 'z') || c.isDigit)) = true := by decide +kernel
    rw [List.all_eq_true]
    intro c member
    have inside : c ∈ (dcName ++ "-" ++ rackName).toList := by
      rw [String.toList_append, String.toList_append]
      exact List.mem_append_left _ (List.mem_append_left _ member)
    have ordinary := regexDCRackName_chars valid c inside
    by_cases special : c ∈ specialChars
    · have apart := List.all_eq_true.mp foreign c special
      simp only [Bool.not_eq_true', Bool.or_eq_false_iff, beq_eq_false_iff_ne,
        decide_eq_false_iff_not] at apart
      rcases ordinary with dash | letter | digit
      · exact absurd dash apart.1.1
      · exact absurd letter apart.1.2
      · exact absurd digit (by simp [apart.2])
    · simpa using special

/-- The mark the pattern starts with. -/
def datacenterTag : String := "datacenter:"

/-- `MatchString` of the pattern `datacenter:%s`; the pattern of such a name is matched by the
texts that contain it. -/
def matchesDatacenter (dc : DCName) (tokenRange : String) : Bool :=
  decide ((datacenterTag ++ dc.name).toList <:+: tokenRange.toList)

def localSystemKeyspaces : List String := ["system", "system_schema"]

/-- What a node answers: its keyspaces, and the token ranges `describeRingJMX` gives for
one of them. -/
structure JolokiaAnswers where
  keyspaces : Except ApiError (List String)
  describeRing : String → Except ApiError (List String)

def nonLocalKeyspaces (answers : JolokiaAnswers) : Except ApiError (List String) :=
  answers.keyspaces.map fun keyspaces =>
    keyspaces.filter fun keyspace => !localSystemKeyspaces.contains keyspace

def hasKeyspaceDataInDC (answers : JolokiaAnswers) (keyspace : String) (dc : DCName) :
    Except ApiError Bool :=
  (answers.describeRing keyspace).map fun tokenRanges => tokenRanges.any (matchesDatacenter dc)

/-- The loop of `NonLocalKeyspacesInDC`. -/
def keyspacesWithDataInDC (answers : JolokiaAnswers) (dc : DCName) :
    List String → Except ApiError (List String)
  | [] => .ok []
  | keyspace :: keyspaces =>
    match hasKeyspaceDataInDC answers keyspace dc with
    | .error error => .error error
    | .ok dataFound =>
      (keyspacesWithDataInDC answers dc keyspaces).map fun found =>
        if dataFound then keyspace :: found else found

def nonLocalKeyspacesInDC (answers : JolokiaAnswers) (dc : DCName) :
    Except ApiError (List String) :=
  match nonLocalKeyspaces answers with
  | .error error => .error error
  | .ok keyspaces => keyspacesWithDataInDC answers dc keyspaces

/-! ## The texts of a ring -/

/-- An endpoint of a token range.  Its names do not hold the mark themselves. -/
structure EndpointDetails where
  host : String
  datacenter : String
  rack : String
  unmarked : ∀ field ∈ [host, datacenter, rack], ¬ datacenterTag.toList <:+: field.toList

def EndpointDetails.text (endpoint : EndpointDetails) : String :=
  "EndpointDetails(host:" ++ endpoint.host ++ ", " ++ datacenterTag ++ endpoint.datacenter ++
    ", rack:" ++ endpoint.rack ++ ")"

/-- A token range: the endpoints between brackets, with other text around. -/
structure TokenRange where
  before : String
  endpoints : List EndpointDetails
  after : String
  unmarked : ∀ field ∈ [before, after], ¬ datacenterTag.toList <:+: field.toList

def TokenRange.text (range : TokenRange) : String :=
  range.before ++ "[" ++ String.intercalate ", " (range.endpoints.map EndpointDetails.text) ++
    "]" ++ range.after

section Texts

open FieldSearch

variable (dc : DCName)

private theorem tag_nonempty : datacenterTag.toList ≠ [] := by decide +kernel

private theorem tag_single : Apart datacenterTag.toList datacenterTag.toList.tail := by
  decide +kernel

theorem DCName.no_comma : ',' ∉ dc.name.toList := by
  intro member
  have special : specialChars.contains ',' = true := by decide +kernel
  have plain := List.all_eq_true.mp dc.plain ',' member
  rw [special] at plain
  cases plain

/-- The pattern of the search, as a list of characters. -/
def DCName.pattern : List Char := datacenterTag.toList ++ dc.name.toList

/-- The only mark of an endpoint stands before its DC. -/
theorem infix_endpoint_iff (endpoint : EndpointDetails) (rest : List Char) :
    dc.pattern <:+: endpoint.text.toList ++ rest ↔
      dc.name.toList <+: endpoint.datacenter.toList ∨ dc.pattern <:+: rest := by
  have host := endpoint.unmarked endpoint.host (by simp)
  have datacenter := endpoint.unmarked endpoint.datacenter (by simp)
  have rack := endpoint.unmarked endpoint.rack (by simp)
  have front : Skips dc.pattern ("EndpointDetails(host:".toList ++
      ((endpoint.host.toList ++ [',']) ++ [' '])) :=
    .append (Apart.skips (by decide +kernel) _)
      (.append ((apart_of_unmarked host (by decide +kernel)).skips _)
        (Apart.skips (by decide +kernel) _))
  have back : Skips dc.pattern (" rack:".toList ++ (endpoint.rack.toList ++ [')'])) :=
    .append (Apart.skips (by decide +kernel) _)
      ((apart_of_unmarked rack (by decide +kernel)).skips _)
  have split : endpoint.text.toList ++ rest =
      ("EndpointDetails(host:".toList ++ ((endpoint.host.toList ++ [',']) ++ [' '])) ++
        (datacenterTag.toList ++ (endpoint.datacenter.toList ++
          ',' :: ((" rack:".toList ++ (endpoint.rack.toList ++ [')'])) ++ rest))) := by
    have comma : ", ".toList = [',', ' '] := by decide +kernel
    have field : ", rack:".toList = ',' :: " rack:".toList := by decide +kernel
    have close : ")".toList = [')'] := by decide +kernel
    unfold EndpointDetails.text
    iterate 7 rw [String.toList_append]
    rw [comma, field, close]
    generalize "EndpointDetails(host:".toList = opening, " rack:".toList = rackField
    simp
  rw [split, front]
  unfold DCName.pattern at back ⊢
  rw [infix_field_iff tag_single (by decide +kernel) dc.no_comma tag_nonempty datacenter, back]

theorem infix_endpoints_iff (endpoints : List EndpointDetails) (rest : List Char) :
    dc.pattern <:+: (String.intercalate ", " (endpoints.map EndpointDetails.text)).toList ++ rest ↔
      (∃ endpoint ∈ endpoints, dc.name.toList <+: endpoint.datacenter.toList) ∨
        dc.pattern <:+: rest := by
  rw [String.toList_intercalate]
  induction endpoints with
  | nil => simp
  | cons endpoint endpoints induction =>
    cases endpoints with
    | nil => simp [infix_endpoint_iff]
    | cons next endpoints =>
      have comma : Skips dc.pattern ", ".toList := Apart.skips (by decide +kernel) _
      simp only [List.map_cons, List.intercalate_cons_cons, List.append_assoc] at induction ⊢
      rw [infix_endpoint_iff, comma, induction]
      simp [or_assoc]

theorem matchesDatacenter_text (range : TokenRange) :
    matchesDatacenter dc range.text = true ↔
      ∃ endpoint ∈ range.endpoints, dc.name.toList <+: endpoint.datacenter.toList := by
  have before := range.unmarked range.before (by simp)
  have after := range.unmarked range.after (by simp)
  have front : Skips dc.pattern (range.before.toList ++ ['[']) :=
    (apart_of_unmarked before (by decide +kernel)).skips _
  have bracket : Skips dc.pattern [']'] := Apart.skips (by decide +kernel) _
  have split : range.text.toList = (range.before.toList ++ ['[']) ++
      ((String.intercalate ", " (range.endpoints.map EndpointDetails.text)).toList ++
        ([']'] ++ range.after.toList)) := by
    simp [TokenRange.text]
  have pattern : (datacenterTag ++ dc.name).toList = dc.pattern := String.toList_append
  have behind : ¬ dc.pattern <:+: range.after.toList := fun found =>
    after ((List.prefix_append _ _).isInfix.trans found)
  unfold matchesDatacenter
  rw [decide_eq_true_iff, pattern, split, front, infix_endpoints_iff, bracket, or_iff_left behind]

end Texts

/-! ## What is found -/

/-- The ring as a node knows it; the operator gets the texts of its token ranges. -/
structure Ring where
  keyspaces : Except ApiError (List String)
  tokenRanges : String → Except ApiError (List TokenRange)

def Ring.answers (ring : Ring) : JolokiaAnswers :=
  { keyspaces := ring.keyspaces
    describeRing := fun keyspace =>
      (ring.tokenRanges keyspace).map fun ranges => ranges.map TokenRange.text }

/-- Some endpoint of the keyspace is in a DC with such a name. -/
def Ring.hasDC (ring : Ring) (keyspace : String) (named : String → Bool) : Bool :=
  match ring.tokenRanges keyspace with
  | .error _ => false
  | .ok ranges => ranges.any fun range =>
    range.endpoints.any fun endpoint => named endpoint.datacenter

def DCName.equals (dc : DCName) (datacenter : String) : Bool := datacenter == dc.name

/-- The name starts with the one asked for. -/
def DCName.starts (dc : DCName) (datacenter : String) : Bool :=
  dc.name.toList.isPrefixOf datacenter.toList

/-- Every query is answered. -/
def Ring.Answers (ring : Ring) (keyspaces : List String) : Prop :=
  nonLocalKeyspaces ring.answers = .ok keyspaces ∧
    ∀ keyspace ∈ keyspaces, ∃ ranges, ring.tokenRanges keyspace = .ok ranges

/-- The keyspaces with an endpoint in the DC and no others, in their order, or an error if a
query failed. -/
structure FindsExactly (ring : Ring) (dc : DCName) (result : Except ApiError (List String)) :
    Prop where
  answered : ∀ keyspaces, ring.Answers keyspaces →
    result = .ok (keyspaces.filter fun keyspace => ring.hasDC keyspace dc.equals)
  failed : (∀ keyspaces, ¬ ring.Answers keyspaces) → ∃ error, result = .error error

section Search

variable {ring : Ring} {dc : DCName} {keyspaces : List String}

theorem hasKeyspaceDataInDC_of_answered {keyspace : String} {ranges : List TokenRange}
    (answered : ring.tokenRanges keyspace = .ok ranges) :
    hasKeyspaceDataInDC ring.answers keyspace dc = .ok (ring.hasDC keyspace dc.starts) := by
  have texts : ring.answers.describeRing keyspace = .ok (ranges.map TokenRange.text) := by
    unfold Ring.answers
    dsimp only
    rw [answered]
    rfl
  unfold hasKeyspaceDataInDC Ring.hasDC
  rw [texts, answered]
  refine congrArg Except.ok (Bool.eq_iff_iff.mpr ?_)
  simp [matchesDatacenter_text, DCName.starts]

theorem hasKeyspaceDataInDC_of_failed {keyspace : String} {error : ApiError}
    (failed : ring.tokenRanges keyspace = .error error) :
    hasKeyspaceDataInDC ring.answers keyspace dc = .error error := by
  unfold hasKeyspaceDataInDC Ring.answers
  dsimp only
  rw [failed]
  rfl

theorem keyspacesWithDataInDC_of_answered
    (answered : ∀ keyspace ∈ keyspaces, ∃ ranges, ring.tokenRanges keyspace = .ok ranges) :
    keyspacesWithDataInDC ring.answers dc keyspaces =
      .ok (keyspaces.filter fun keyspace => ring.hasDC keyspace dc.starts) := by
  induction keyspaces with
  | nil => rfl
  | cons keyspace keyspaces induction =>
    obtain ⟨ranges, first⟩ := answered keyspace List.mem_cons_self
    have rest := induction fun other member => answered other (List.mem_cons_of_mem _ member)
    unfold keyspacesWithDataInDC
    rw [hasKeyspaceDataInDC_of_answered first, rest]
    rw [List.filter_cons]
    cases ring.hasDC keyspace dc.starts <;> rfl

theorem keyspacesWithDataInDC_of_failed
    (failed : ∃ keyspace ∈ keyspaces, ∃ error, ring.tokenRanges keyspace = .error error) :
    ∃ error, keyspacesWithDataInDC ring.answers dc keyspaces = .error error := by
  induction keyspaces with
  | nil =>
    obtain ⟨_, member, _⟩ := failed
    cases member
  | cons keyspace keyspaces induction =>
    unfold keyspacesWithDataInDC
    cases first : ring.tokenRanges keyspace with
    | error error =>
      rw [hasKeyspaceDataInDC_of_failed first]
      exact ⟨error, rfl⟩
    | ok ranges =>
      obtain ⟨other, member, error, second⟩ := failed
      have later : other ∈ keyspaces := by
        rcases List.mem_cons.mp member with rfl | later
        · rw [first] at second
          cases second
        · exact later
      obtain ⟨error, rest⟩ := induction ⟨other, later, error, second⟩
      rw [hasKeyspaceDataInDC_of_answered first, rest]
      exact ⟨error, rfl⟩

theorem Ring.Answers.nonLocalKeyspacesInDC_eq (answers : ring.Answers keyspaces) :
    nonLocalKeyspacesInDC ring.answers dc =
      .ok (keyspaces.filter fun keyspace => ring.hasDC keyspace dc.starts) := by
  unfold nonLocalKeyspacesInDC
  rw [answers.1]
  exact keyspacesWithDataInDC_of_answered answers.2

theorem nonLocalKeyspacesInDC_of_failed (failed : ∀ keyspaces, ¬ ring.Answers keyspaces) :
    ∃ error, nonLocalKeyspacesInDC ring.answers dc = .error error := by
  unfold nonLocalKeyspacesInDC
  cases listed : nonLocalKeyspaces ring.answers with
  | error error => exact ⟨error, rfl⟩
  | ok keyspaces =>
    apply keyspacesWithDataInDC_of_failed
    by_contra none
    refine failed keyspaces ⟨listed, fun keyspace member => ?_⟩
    cases answer : ring.tokenRanges keyspace with
    | error error => exact absurd ⟨keyspace, member, error, answer⟩ none
    | ok ranges => exact ⟨ranges, rfl⟩

theorem Ring.hasDC_starts {keyspace : String} (found : ring.hasDC keyspace dc.equals = true) :
    ring.hasDC keyspace dc.starts = true := by
  unfold Ring.hasDC at found ⊢
  cases answer : ring.tokenRanges keyspace with
  | error _ =>
    rw [answer] at found
    exact found
  | ok ranges =>
    rw [answer] at found
    simp only [List.any_eq_true, DCName.equals, beq_iff_eq] at found ⊢
    obtain ⟨range, listed, endpoint, member, same⟩ := found
    refine ⟨range, listed, endpoint, member, ?_⟩
    unfold DCName.starts
    rw [same, List.isPrefixOf_iff_prefix]

end Search

/-- A keyspace that is replicated to `dc10` only. -/
def longerNameRing : Ring :=
  { keyspaces := .ok ["system", "demo1"]
    tokenRanges := fun _ =>
      .ok [{ before := "TokenRange(start_token:1, end_token:2, endpoint_details:"
             endpoints :=
               [{ host := "10.244.2.5", datacenter := "dc10", rack := "rack1"
                  unmarked := by decide +kernel }]
             after := ")"
             unmarked := by decide +kernel }] }

end Casskop
