import Casskop.Controller.StatefulSets
import Casskop.Validation.Topology

/-!
# Names of racks

Rack statuses and StatefulSets are kept under the dc-rack name, from which
`GetDCNameAndRackNameFromDCRackName` reads the DC and the rack again.  The CRD admits no dash
in either of them, so a dc-rack name belongs to one rack.
-/

namespace Casskop

/-- `GetDCNameAndRackNameFromDCRackName`; `none` is the index fault of `dc[1]`. -/
def getDCNameAndRackNameFromDCRackName (dcRackName : String) : Option (String × String) :=
  match dcRackName.toList.splitOn '-' with
  | dc :: rack :: _ => some (String.ofList dc, String.ofList rack)
  | _ => none

theorem getDCNameFromDCRackName_eq (dcRackName : String) :
    getDCNameFromDCRackName dcRackName =
      (getDCNameAndRackNameFromDCRackName dcRackName).map Prod.fst := by
  unfold getDCNameFromDCRackName getDCNameAndRackNameFromDCRackName
  generalize dcRackName.toList.splitOn '-' = parts
  match parts with
  | [] => rfl
  | [_] => rfl
  | _ :: _ :: _ => rfl

/-- A name of a DC or a rack that matches the pattern `^[^-]+$` of the CRD. -/
@[ext]
structure DeclaredName where
  text : String
  nonempty : text ≠ ""
  plain : '-' ∉ text.toList

namespace DeclaredName

variable (dc rack : DeclaredName)

theorem split_joined :
    getDCNameAndRackNameFromDCRackName (dc.text ++ "-" ++ rack.text) =
      some (dc.text, rack.text) := by
  have joined : (dc.text ++ "-" ++ rack.text).toList =
      ['-'].intercalate [dc.text.toList, rack.text.toList] := by
    simp [List.intercalate]
  have parts : (dc.text ++ "-" ++ rack.text).toList.splitOn '-' =
      [dc.text.toList, rack.text.toList] := by
    rw [joined]
    apply List.splitOn_intercalate
    · simp [dc.plain, rack.plain]
    · simp
  simp only [getDCNameAndRackNameFromDCRackName, parts, String.ofList_toList]

variable {dc rack}

variable (valid : getDCRackName dc.text rack.text ≠ "")

include valid

theorem getDCRackName_joined : getDCRackName dc.text rack.text = dc.text ++ "-" ++ rack.text := by
  by_cases label : regexDCRackName (dc.text ++ "-" ++ rack.text) = true
  · simp [getDCRackName, label]
  · simp [getDCRackName, label] at valid

theorem decodes :
    getDCNameAndRackNameFromDCRackName (getDCRackName dc.text rack.text) =
      some (dc.text, rack.text) := by
  rw [getDCRackName_joined valid]
  exact split_joined dc rack

theorem eq_of_getDCRackName {dc' rack' : DeclaredName}
    (same : getDCRackName dc'.text rack'.text = getDCRackName dc.text rack.text) :
    dc' = dc ∧ rack' = rack := by
  have here := decodes valid
  have there := decodes (same ▸ valid : getDCRackName dc'.text rack'.text ≠ "")
  rw [same, here] at there
  obtain ⟨dcs, racks⟩ := Prod.mk.inj (Option.some.inj there)
  exact ⟨DeclaredName.ext dcs.symm, DeclaredName.ext racks.symm⟩

end DeclaredName

theorem statefulSetName_injective (cc : CassandraCluster) :
    Function.Injective (statefulSetName cc) := by
  intro first second same
  exact (String.append_right_inj _).mp same

/-- A dc-rack name that is not empty names one DC and one rack; a status given to this rack
is no status of another one, and its StatefulSet has a name of its own. -/
theorem getDCRackName_names_one_rack (dc rack : DeclaredName)
    (valid : getDCRackName dc.text rack.text ≠ "") :
    getDCNameAndRackNameFromDCRackName (getDCRackName dc.text rack.text) =
        some (dc.text, rack.text) ∧
      getDCNameFromDCRackName (getDCRackName dc.text rack.text) = some dc.text ∧
      ∀ dc' rack' : DeclaredName, (dc', rack') ≠ (dc, rack) →
        getDCRackName dc'.text rack'.text ≠ getDCRackName dc.text rack.text ∧
        (∀ racks, (initCassandraRackStatus racks dc.text rack.text).lookup
            (getDCRackName dc'.text rack'.text) =
          racks.lookup (getDCRackName dc'.text rack'.text)) ∧
        ∀ cc, statefulSetName cc (getDCRackName dc'.text rack'.text) ≠
          statefulSetName cc (getDCRackName dc.text rack.text) := by
  have decoded := DeclaredName.decodes valid
  refine ⟨decoded, by simp [getDCNameFromDCRackName_eq, decoded], ?_⟩
  intro dc' rack' different
  have apart : getDCRackName dc'.text rack'.text ≠ getDCRackName dc.text rack.text := by
    intro same
    obtain ⟨rfl, rfl⟩ := DeclaredName.eq_of_getDCRackName valid same
    exact different rfl
  refine ⟨apart, ?_, ?_⟩
  · intro racks
    exact Finmap.lookup_insert_of_ne _ apart
  · intro cc same
    exact apart (statefulSetName_injective cc same)

def firstDCName : DeclaredName := ⟨"dc1", by decide, by decide⟩

def firstRackName : DeclaredName := ⟨"rack1", by decide, by decide⟩

theorem firstRack_names_one_rack :
    getDCRackName firstDCName.text firstRackName.text ≠ "" ∧
      getDCNameAndRackNameFromDCRackName "dc1-rack1" = some ("dc1", "rack1") := by
  have named : getDCRackName firstDCName.text firstRackName.text = "dc1-rack1" := by decide
  have valid : getDCRackName firstDCName.text firstRackName.text ≠ "" := by
    rw [named]
    decide
  have decoded := (getDCRackName_names_one_rack firstDCName firstRackName valid).1
  rw [named] at decoded
  exact ⟨valid, decoded⟩

end Casskop
