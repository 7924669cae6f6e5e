import CloudInventory.Proofs.Text.Lowercase
import CloudInventory.Proofs.Text.Separators
import CloudInventory.Resource.Dns

/-! The identifiers of record sets. Zone and type have no underscore, so that the first and the last
one of an identifier part it, whatever the name between them is; and the name stands in it in its
one written form. -/

namespace CloudInventory

open Text (IsAscii)

variable {cs ds : List Char} {zone zone' name name' type type' : String}

/-- A name in small letters, without the dots at its end. -/
def canonicalName (cs : List Char) : List Char :=
  (cs.rdropWhile (· == '.')).map Char.toLower

theorem canonicalName_eq (cs : List Char) :
    canonicalName cs = (cs.map Char.toLower).rdropWhile (· == '.') := by
  -- no letter becomes a dot, so that the dots at the end are the same before and after
  have hdot : (fun c : Char => c == '.') ∘ Char.toLower = (· == '.') := by
    funext c
    exact Bool.eq_iff_iff.mpr (by simpa using Text.toLower_eq_iff (d := '.') (by decide))
  simp only [canonicalName, List.rdropWhile, ← List.map_reverse, List.dropWhile_map, hdot]

theorem IsAscii.canonicalName (h : IsAscii cs) : IsAscii (canonicalName cs) := by
  refine Text.IsAscii.map_toLower fun c hc => h c ?_
  exact (List.rdropWhile_prefix _ _).subset hc

theorem recordName_eq (h : IsAscii cs) : recordName cs = canonicalName cs := by
  refine Text.lowercase_ascii fun c hc => h c ?_
  exact (List.rdropWhile_prefix _ _).subset hc

theorem canonicalName_idem (cs : List Char) :
    canonicalName (canonicalName cs) = canonicalName cs := by
  have hlower : Char.toLower ∘ Char.toLower = Char.toLower := funext Text.toLower_toLower
  rw [canonicalName_eq, canonicalName, List.map_map, hlower, ← canonicalName, canonicalName_eq,
    List.rdropWhile_idempotent]

theorem canonicalName_dots (cs : List Char) (n : Nat) :
    canonicalName (cs ++ List.replicate n '.') = canonicalName cs := by
  have hdots : ∀ c ∈ List.replicate n '.', (c == '.') = true := by
    intro c hc
    rw [List.eq_of_mem_replicate hc]
    rfl
  rw [canonicalName, canonicalName, List.rdropWhile, List.rdropWhile, List.reverse_append,
    List.reverse_replicate, List.dropWhile_append_of_pos hdots]

theorem recordSetId_eq_iff (hzone : '_' ∉ zone.toList) (hzone' : '_' ∉ zone'.toList)
    (htype : '_' ∉ type.toList) (htype' : '_' ∉ type'.toList) :
    recordSetId zone name type = recordSetId zone' name' type' ↔
      zone = zone' ∧ type = type' ∧ recordName name.toList = recordName name'.toList := by
  rw [recordSetId, recordSetId, String.ofList_inj, Text.append_separator_inj hzone hzone',
    Text.append_last_separator_inj htype htype', String.toList_inj, String.toList_inj,
    and_comm (a := type = type')]

/-- Two identifiers are the same if and only if zone, type and the written form of the name are. So
neither the case of the name nor the dots at its end matter, nor whether it is in that form
already. -/
theorem record_ids_canonical (hzone : '_' ∉ zone.toList) (hzone' : '_' ∉ zone'.toList)
    (htype : '_' ∉ type.toList) (htype' : '_' ∉ type'.toList) (hname : IsAscii name.toList)
    (hname' : IsAscii name'.toList) :
    (recordSetId zone name type = recordSetId zone' name' type' ↔
      zone = zone' ∧ type = type' ∧ canonicalName name.toList = canonicalName name'.toList) ∧
    (name.toList.map Char.toLower = name'.toList.map Char.toLower →
      recordSetId zone name type = recordSetId zone name' type) ∧
    (∀ n, recordSetId zone (name ++ String.ofList (List.replicate n '.')) type =
      recordSetId zone name type) ∧
    recordSetId zone (String.ofList (canonicalName name.toList)) type =
      recordSetId zone name type := by
  have hsame : ∀ n n' : String, IsAscii n.toList → IsAscii n'.toList →
      canonicalName n.toList = canonicalName n'.toList →
      recordSetId zone n type = recordSetId zone n' type := by
    intro n n' hn hn' heq
    rw [recordSetId, recordSetId, recordName_eq hn, recordName_eq hn', heq]
  refine ⟨?_, fun hcase => ?_, fun n => ?_, ?_⟩
  · rw [recordSetId_eq_iff hzone hzone' htype htype', recordName_eq hname, recordName_eq hname']
  · exact hsame name name' hname hname' (by rw [canonicalName_eq, canonicalName_eq, hcase])
  · have hdots : IsAscii (name ++ String.ofList (List.replicate n '.')).toList := by
      rw [String.toList_append, String.toList_ofList]
      refine List.forall_mem_append.mpr ⟨hname, fun c hc => ?_⟩
      rw [List.eq_of_mem_replicate hc]
      decide
    refine hsame _ _ hdots hname ?_
    rw [String.toList_append, String.toList_ofList, canonicalName_dots]
  · have hcanonical := IsAscii.canonicalName hname
    refine hsame _ _ (by rwa [String.toList_ofList]) hname ?_
    rw [String.toList_ofList, canonicalName_idem]

/-- An underscore within the name does not part the identifier. -/
theorem underscored_ids_canonical :
    '_' ∉ "prod".toList ∧ '_' ∉ "TXT".toList ∧ IsAscii "_dmarc.Example.COM..".toList ∧
      IsAscii "_DMARC.example.com".toList ∧
      recordSetId "prod" "_dmarc.Example.COM.." "TXT" =
        recordSetId "prod" "_DMARC.example.com" "TXT" ∧
      recordSetId "prod" "_dmarc.example.com" "TXT" =
        recordSetId "prod" "_dmarc.Example.COM.." "TXT" ∧
      recordSetId "prod" "_dmarc.example.com" "TXT" = "prod__dmarc.example.com_TXT" := by
  have hzone : '_' ∉ "prod".toList := by decide
  have htype : '_' ∉ "TXT".toList := by decide
  have hname : IsAscii "_dmarc.Example.COM..".toList := by decide
  have hname' : IsAscii "_DMARC.example.com".toList := by decide
  obtain ⟨hiff, _, _, hnormal⟩ :=
    record_ids_canonical hzone hzone htype htype hname hname'
  refine ⟨hzone, htype, hname, hname', hiff.mpr ⟨rfl, rfl, by decide⟩, ?_, by decide⟩
  rw [← hnormal]
  rfl

end CloudInventory
