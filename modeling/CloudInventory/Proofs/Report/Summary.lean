import CloudInventory.Proofs.Inventory
import CloudInventory.Proofs.Text.Lines
import CloudInventory.Report

/-! The lines of a summary: a heading, a table with the number of resources of each type, their
total, and the alerts. -/

namespace CloudInventory

open Text (OneLine oneLine_ofList oneLine_toString lineFeed_not_mem_replicate
  lineFeed_not_mem_toDigits)

namespace Timestamp

theorem oneLine_padded (width n : Nat) : OneLine (padded width n) :=
  oneLine_ofList fun h => (List.mem_append.mp h).elim (lineFeed_not_mem_replicate (by decide) _)
    (lineFeed_not_mem_toDigits (by decide) (by decide) n)

theorem oneLine_yearText (y : Int) : OneLine (yearText y) := by
  unfold yearText
  split
  · exact oneLine_padded _ _
  · refine OneLine.append ?_ (oneLine_padded _ _)
    split <;> decide

theorem oneLine_append_padded {s mark : String} (h : OneLine s) (hmark : OneLine mark) (n : Nat) :
    OneLine (s ++ mark ++ padded 2 n) :=
  (h.append hmark).append (oneLine_padded 2 n)

theorem oneLine_dateText (t : Timestamp) : OneLine t.dateText :=
  oneLine_append_padded (oneLine_append_padded (oneLine_yearText _) (by decide) _) (by decide) _

theorem oneLine_timeText (t : Timestamp) : OneLine t.timeText :=
  oneLine_append_padded (oneLine_append_padded (oneLine_padded 2 _) (by decide) _) (by decide) _

theorem oneLine_shortText (t : Timestamp) : OneLine t.shortText := by
  have hdate := (oneLine_dateText t).append (t := " ") (by decide)
  exact (hdate.append (oneLine_timeText t)).append (t := " UTC") (by decide)

end Timestamp

theorem ScanId.oneLine_text (id : ScanId) : OneLine id.text := by
  have hdigits : '\n' ∉ hexDigits id.value := fun h => (List.mem_append.mp h).elim
    (lineFeed_not_mem_replicate (by decide) _)
    (lineFeed_not_mem_toDigits (by decide) (by decide) _)
  have hgroup : ∀ start length,
      OneLine (String.ofList (((hexDigits id.value).drop start).take length)) := fun _ _ =>
    oneLine_ofList fun h => hdigits (List.mem_of_mem_drop (List.mem_of_mem_take h))
  have hend : ∀ {s : String}, OneLine s → OneLine (s ++ "-") := fun h => h.append (by decide)
  exact (hend ((hend ((hend ((hend (hgroup 0 8)).append (hgroup 8 4))).append
    (hgroup 12 4))).append (hgroup 16 4))).append (hgroup 20 12)

theorem ResourceType.oneLine_name (t : ResourceType) : OneLine t.name := by
  cases t <;> decide

namespace Report

open Inventory (countByType ofType)

variable {i : Inventory} {type : String}

theorem oneLine_heading (h : OneLine i.project) : OneLine (heading i) := by
  have hproject := (OneLine.append (s := "Project ") (by decide) h).append (t := " scanned at ")
    (by decide)
  have htime := (hproject.append i.scannedAt.oneLine_shortText).append (t := " (scan ") (by decide)
  exact (htime.append i.scanId.oneLine_text).append (t := ")") (by decide)

def spaces (n : Nat) : String := String.ofList (List.replicate n ' ')

/-- A line of the table: a type, and its number of resources behind a gap. -/
def tableLine (gap : String → Nat) (resources : List Resource) (type : String) : String :=
  "  " ++ type ++ spaces (gap type) ++ toString (ofType type resources).length

def totalLine (resources : List Resource) : String := s!"Total: {resources.length} resources"

def alertLine (notice : String × Alert) : String := s!"  [{notice.1}] {notice.2.message}"

/-- All alerts, each under its type. -/
def notices (alerts : Alerts) : List (String × Alert) :=
  alerts.flatMap fun e => e.2.map (e.1, ·)

/-! ### The table -/

theorem countLine_eq (width : Nat) (entry : String × Nat) : countLine width entry =
    "  " ++ entry.1 ++ spaces (width - entry.1.length + 2) ++ toString entry.2 := by
  have hgap : (spaces (width - entry.1.length + 2)).toList =
      List.replicate (width - entry.1.length) ' ' ++ ("  " : String).toList := by
    rw [spaces, String.toList_ofList, List.replicate_add]
    rfl
  rw [← String.toList_inj]
  simp only [countLine, padRight, String.toList_append, String.toList_ofList, hgap, toString,
    List.append_assoc]

theorem le_foldl_max (ns : List Nat) (n : Nat) :
    n ≤ ns.foldl max n ∧ ∀ m ∈ ns, m ≤ ns.foldl max n := by
  induction ns generalizing n with
  | nil => exact ⟨Nat.le_refl n, by simp⟩
  | cons m ns ih =>
    obtain ⟨hle, hall⟩ := ih (max n m)
    refine ⟨Nat.le_trans (Nat.le_max_left n m) hle, fun k hk => ?_⟩
    rcases List.mem_cons.mp hk with rfl | hk
    · exact Nat.le_trans (Nat.le_max_right n k) hle
    · exact hall k hk

theorem length_le_columnWidth {counts : Dict Nat} (h : type ∈ counts.keys) :
    type.length ≤ columnWidth counts := by
  obtain ⟨entry, hentry, rfl⟩ := List.mem_map.mp h
  exact (le_foldl_max _ 0).2 _ (List.mem_map.mpr ⟨entry, hentry, rfl⟩)

/-- The gap behind a type, so that all counts stand in one column. -/
def gapBehind (resources : List Resource) (type : String) : Nat :=
  columnWidth (countByType resources) - type.length + 2

theorem map_countLine (resources : List Resource) :
    (countByType resources).map (countLine (columnWidth (countByType resources))) =
      (countByType resources).keys.map (tableLine (gapBehind resources) resources) := by
  rw [Dict.keys, List.map_map]
  refine List.map_congr_left fun entry hentry => ?_
  rw [countLine_eq, Inventory.count_eq_of_mem hentry]
  rfl

theorem sum_ofType (resources : List Resource) :
    ((countByType resources).keys.map fun type => (ofType type resources).length).sum =
      resources.length := by
  rw [← Inventory.countByType_sum resources, Dict.keys, List.map_map]
  refine congrArg List.sum (List.map_congr_left fun entry hentry => ?_)
  exact (Inventory.count_eq_of_mem hentry).symm

/-! ### The alerts -/

theorem flatMap_alertLines (alerts : Alerts) :
    alerts.flatMap alertLines = (notices alerts).map alertLine := by
  rw [notices, List.map_flatMap]
  refine List.flatMap_congr fun entry _ => ?_
  rw [List.map_map]
  rfl

theorem notices_pairwise {alerts : Alerts} (h : Dict.Ascending alerts) :
    ((notices alerts).map (·.1)).Pairwise (· ≤ ·) := by
  rw [List.pairwise_map, notices, List.pairwise_flatMap]
  refine ⟨fun entry _ => ?_, h.imp fun hlt x hx y hy => ?_⟩
  · exact List.pairwise_map.mpr (List.pairwise_of_forall fun _ _ => String.le_refl entry.1)
  · obtain ⟨_, _, rfl⟩ := List.mem_map.mp hx
    obtain ⟨_, _, rfl⟩ := List.mem_map.mp hy
    exact String.not_lt.mp (String.lt_asymm hlt)

/-! ### The text -/

theorem summaryLines_eq (i : Inventory) : summaryLines i =
    heading i :: ((countByType i.resources).keys.map
      (tableLine (gapBehind i.resources) i.resources) ++ totalLine i.resources ::
        if i.alerts = [] then [] else "Alerts:" :: (notices i.alerts).map alertLine) := by
  simp only [summaryLines, map_countLine, flatMap_alertLines, List.isEmpty_iff]
  rfl

/-- Nothing that is written as it stands breaks a line. -/
structure Unbroken (i : Inventory) : Prop where
  project : OneLine i.project
  types : ∀ entry ∈ i.alerts, OneLine entry.1
  messages : ∀ entry ∈ i.alerts, ∀ alert ∈ entry.2, OneLine alert.message

theorem oneLine_tableLine {gap : String → Nat} {resources : List Resource}
    (h : type ∈ (countByType resources).keys) : OneLine (tableLine gap resources type) := by
  obtain ⟨r, _, rfl⟩ := Inventory.mem_keys_countByType.mp h
  have hname := OneLine.append (s := "  ") (by decide) r.type.oneLine_name
  have hgap : OneLine (spaces (gap r.type.name)) :=
    oneLine_ofList (lineFeed_not_mem_replicate (by decide) _)
  exact (hname.append hgap).append (oneLine_toString _)

theorem oneLine_totalLine (resources : List Resource) : OneLine (totalLine resources) := by
  have htotal := OneLine.append (s := "Total: ") (by decide) (oneLine_toString resources.length)
  exact htotal.append (t := " resources") (by decide)

theorem Unbroken.oneLine_alertLine (h : Unbroken i) {notice : String × Alert}
    (hnotice : notice ∈ notices i.alerts) : OneLine (alertLine notice) := by
  obtain ⟨entry, hentry, hmem⟩ := List.mem_flatMap.mp hnotice
  obtain ⟨alert, halert, rfl⟩ := List.mem_map.mp hmem
  have htype := OneLine.append (s := "  [") (by decide) (h.types entry hentry)
  exact (htype.append (t := "] ") (by decide)).append (h.messages entry hentry alert halert)

theorem Unbroken.oneLine (h : Unbroken i) : ∀ line ∈ summaryLines i, OneLine line := by
  intro line hline
  rw [summaryLines_eq] at hline
  rcases List.mem_cons.mp hline with rfl | hline
  · exact oneLine_heading h.project
  rcases List.mem_append.mp hline with hline | hline
  · obtain ⟨type, htype, rfl⟩ := List.mem_map.mp hline
    exact oneLine_tableLine htype
  rcases List.mem_cons.mp hline with rfl | hline
  · exact oneLine_totalLine i.resources
  split at hline
  · cases hline
  rcases List.mem_cons.mp hline with rfl | hline
  · decide
  · obtain ⟨notice, hnotice, rfl⟩ := List.mem_map.mp hline
    exact h.oneLine_alertLine hnotice

/-- A summary consists of a heading, a line for each type that occurs with the number of its
resources, their total, and, where there are any alerts, a line for each of them. The types ascend
in both parts, the numbers add up to the total and start in one column, and the alerts of a type
stand in the order in which they were sent. -/
theorem summary_accounts (hmap : Dict.Ascending i.alerts) (h : Unbroken i) :
    ∃ (types : List String) (gap : String → Nat) (column : Nat) (posted : List (String × Alert)),
      Text.splitAt '\n' (summary i).toList =
        (heading i :: (types.map (tableLine gap i.resources) ++ totalLine i.resources ::
          if i.alerts = [] then [] else "Alerts:" :: posted.map alertLine)).map String.toList ++
            [[]] ∧
      types.Pairwise (· < ·) ∧
      (∀ type, type ∈ types ↔ ∃ r ∈ i.resources, r.type.name = type) ∧
      (types.map fun type => (ofType type i.resources).length).sum = i.resources.length ∧
      (∀ type ∈ types, 0 < gap type ∧ 2 + type.length + gap type = column) ∧
      (posted.map (·.1)).Pairwise (· ≤ ·) ∧
      ∀ type, (posted.filter (·.1 = type)).map (·.2) = i.alerts.of type := by
  refine ⟨(countByType i.resources).keys, gapBehind i.resources,
    2 + columnWidth (countByType i.resources) + 2, notices i.alerts, ?_, ?_,
    fun _ => Inventory.mem_keys_countByType, sum_ofType i.resources, fun type htype => ?_,
    notices_pairwise hmap, Dict.filter_flatMap hmap⟩
  · rw [← summaryLines_eq, summary, Text.splitAt_join h.oneLine]
  · exact List.pairwise_map.mpr (Inventory.countByType_ascending i.resources)
  · have hwidth := length_le_columnWidth htype
    unfold gapBehind
    omega

def plainNetwork (id : String) : Resource := .computeNetwork ⟨id, id, none, none, [], none⟩

/-- Two types in no order, and alerts of two others. -/
def smallInventory : Inventory where
  scanId := .nil
  project := "my-project-123"
  scannedAt := ⟨0, 0⟩
  resources := [.serviceAccount ⟨"a", "a", none, none, none, false⟩, plainNetwork "b",
    plainNetwork "a"]
  alerts := [("google_compute_disk", [⟨"first", true⟩, ⟨"second", true⟩]),
    ("google_storage_bucket", [⟨"third", true⟩])]

theorem smallInventory_accounts :
    Dict.Ascending smallInventory.alerts ∧ Unbroken smallInventory ∧
      ∃ (types : List String) (posted : List (String × Alert)), types.Pairwise (· < ·) ∧
        (∀ type, type ∈ types ↔
          type = "google_service_account" ∨ type = "google_compute_network") ∧
        (types.map fun type => (ofType type smallInventory.resources).length).sum = 3 ∧
        (posted.filter (·.1 = "google_compute_disk")).map (·.2) =
          [⟨"first", true⟩, ⟨"second", true⟩] := by
  have hmap : Dict.Ascending smallInventory.alerts := by decide
  have hunbroken : Unbroken smallInventory := by
    refine ⟨by decide, ?_, ?_⟩ <;>
      simp only [smallInventory, List.forall_mem_cons, List.not_mem_nil, false_implies,
        implies_true, and_true]
    · exact ⟨by decide, by decide⟩
    · exact ⟨⟨by decide, by decide⟩, by decide⟩
  obtain ⟨types, _, _, posted, _, hascending, hmem, hsum, _, _, hposted⟩ :=
    summary_accounts hmap hunbroken
  refine ⟨hmap, hunbroken, types, posted, hascending, fun type => ?_, hsum,
    hposted "google_compute_disk"⟩
  rw [hmem]
  simp [smallInventory, plainNetwork, Resource.type, ResourceType.name, eq_comm]

example : summary ⟨.nil, "my-project-123", ⟨0, 0⟩,
    [.serviceAccount ⟨"a", "a", none, none, none, false⟩,
      .computeNetwork ⟨"b", "b", none, none, [], none⟩,
      .computeNetwork ⟨"a", "a", none, none, [], none⟩],
    [("google_compute_disk", [⟨"first", true⟩, ⟨"second", true⟩])]⟩ =
    "Project my-project-123 scanned at 1970-01-01 00:00:00 UTC " ++
      "(scan 00000000-0000-0000-0000-000000000000)\n" ++
      "  google_compute_network  2\n  google_service_account  1\nTotal: 3 resources\n" ++
      "Alerts:\n  [google_compute_disk] first\n  [google_compute_disk] second\n" := by
  decide +kernel

end Report

end CloudInventory
