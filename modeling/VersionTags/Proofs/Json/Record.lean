import VersionTags.Command.Run
import VersionTags.Proofs.Json.Text
import VersionTags.Proofs.Session.Times
import VersionTags.Proofs.Time.Relaxed
/-!
# Records come back from JSON

A tagging and a record of a tag are the same after they have been written as JSON and read again, whatever the id, the
texts and the time (`Json.reports_come_back`).  A value that is read in some other form, such as an array of its fields
or with a time in a zone of its own, is written in one form and is the same value from then on.  So a report of the
taggings of a version can be put on another version, which then has what a copy would have given it.
-/
namespace VersionTags

namespace Json

/-- Values of a kind that JSON keeps: those of the right size come back, and only such are ever read. -/
structure Keeps {α : Type} (fits : α → Prop) (toJson : α → Json) (ofJson : Json → Option α) : Prop where
  back (a : α) : fits a → ofJson (toJson a) = some a
  back_pretty (a : α) : fits a → (read (toJson a).pretty >>= ofJson) = some a
  back_compact (a : α) : fits a → (read (toJson a).compact >>= ofJson) = some a
  fits_of_read (j : Json) (a : α) : ofJson j = some a → fits a
  /-- What was read from any other form is written in one form, and is the same when it is read again. -/
  settled (j : Json) (a : α) : ofJson j = some a → ofJson (toJson a) = some a
  settled_text (s : String) (a : α) : (read s >>= ofJson) = some a → (read (toJson a).pretty >>= ofJson) = some a

theorem Keeps.of_back {α : Type} {fits : α → Prop} {toJson : α → Json} {ofJson : Json → Option α}
    (hi : ∀ a, Integral (toJson a)) (hb : ∀ a, fits a → ofJson (toJson a) = some a)
    (hf : ∀ j a, ofJson j = some a → fits a) : Keeps fits toJson ofJson := by
  have hpretty : ∀ a, fits a → (read (toJson a).pretty >>= ofJson) = some a := by
    intro a ha
    rw [read_pretty (hi a)]
    exact hb a ha
  refine ⟨hb, hpretty, fun a ha => ?_, hf, fun j a h => hb a (hf j a h), fun s a h => ?_⟩
  · rw [read_compact (hi a)]
    exact hb a ha
  · obtain ⟨j, -, hj⟩ := Option.bind_eq_some_iff.1 h
    exact hpretty a (hf j a hj)

end Json

theorem Time.Instant.ofJson_toJson (t : Instant) : ofJson t.toJson = some t := by
  rw [ofJson, toJson, Json.asString, Option.bind_eq_bind, Option.bind_some, readRelaxed_zuluText]

namespace Tagging

/-- The id fits 64 bits with a sign. -/
def HasId (t : Tagging) : Prop := Decimal.minInt64 ≤ t.id ∧ t.id ≤ Decimal.maxInt64

theorem integral_toJson (t : Tagging) : t.toJson.Integral := by
  refine .object fun f hf => ?_
  rcases List.mem_append.1 hf with hf | hf
  · simp only [List.mem_cons, List.not_mem_nil, or_false] at hf
    rcases hf with rfl | rfl | rfl | rfl
    · exact .int _
    · exact .string _
    · exact .string _
    · exact .string _
  · obtain ⟨p, -, rfl⟩ := List.mem_map.1 hf
    exact .string _

theorem members_toJson (t : Tagging) : t.toJson.members ["id", "name", "author", "tagged_at", "resource_path"] =
    some [some (.int t.id), some (.string t.name), some (.string t.author), some t.taggedAt.toJson,
      t.path.map .string] := by
  obtain ⟨id, name, author, taggedAt, path⟩ := t
  cases path <;> rfl

theorem ofJson_toJson {t : Tagging} (h : t.HasId) : ofJson t.toJson = some t := by
  have hid : Decimal.int64? t.id = some t.id := if_pos h
  have hpath : Json.optional Json.asString (t.path.map .string) = some t.path := by
    cases t.path <;> rfl
  unfold ofJson
  rw [members_toJson]
  simp only [Option.bind_eq_bind, Option.bind_some, Json.asInt64, Json.asInt, Json.asString, hid,
    Time.Instant.ofJson_toJson, hpath]
  rfl

theorem ofJson_eq_some {j : Json} {t : Tagging} (h : ofJson j = some t) :
    ∃ i n a time p,
      j.members ["id", "name", "author", "tagged_at", "resource_path"] = some [some i, some n, some a, some time, p] ∧
      i.asInt64 = some t.id ∧ n.asString = some t.name ∧ a.asString = some t.author ∧
      Time.Instant.ofJson time = some t.taggedAt ∧ Json.optional Json.asString p = some t.path := by
  unfold ofJson at h
  simp only [Option.bind_eq_bind, Option.bind_eq_some_iff] at h
  obtain ⟨ms, hms, h⟩ := h
  rw [hms]
  split at h
  · simp only [Option.bind_eq_some_iff] at h
    obtain ⟨i, hi, id, hid, n, hn, name, hname, a, ha, author, hauthor, time, htime, t', ht', path, hpath, h⟩ := h
    cases h
    refine ⟨i, n, a, time, _, ?_, hid, hname, hauthor, ht', hpath⟩
    rw [hi, hn, ha, htime]
  · cases h

theorem hasId_of_ofJson {j : Json} {t : Tagging} (h : ofJson j = some t) : t.HasId := by
  obtain ⟨i, -, -, -, -, -, hid, -⟩ := ofJson_eq_some h
  obtain ⟨n, -, hn⟩ := Option.bind_eq_some_iff.1 hid
  unfold Decimal.int64? at hn
  split at hn
  · cases hn
    assumption
  · cases hn

/-- A record can be read off a tagging, whose other fields are of no account. -/
theorem recordOf_toJson (t : Tagging) : TagRecord.ofJson t.toJson = some t.record := by
  have hmembers : t.toJson.members ["name", "author", "tagged_at"] =
      some [some (.string t.name), some (.string t.author), some t.taggedAt.toJson] := by
    obtain ⟨id, name, author, taggedAt, path⟩ := t
    cases path <;> rfl
  unfold TagRecord.ofJson
  rw [hmembers]
  simp only [Option.bind_eq_bind, Option.bind_some, Json.asString, Time.Instant.ofJson_toJson]
  rfl

theorem mapM_recordOf_toJson : ∀ ts : List Tagging, (ts.map toJson).mapM TagRecord.ofJson = some (ts.map record)
  | [] => rfl
  | t :: ts => by
    rw [List.map_cons, List.mapM_cons, recordOf_toJson, mapM_recordOf_toJson ts]
    rfl

end Tagging

namespace TagRecord

theorem integral_toJson (r : TagRecord) : r.toJson.Integral := by
  refine .object fun f hf => ?_
  simp only [List.mem_cons, List.not_mem_nil, or_false] at hf
  rcases hf with rfl | rfl | rfl <;> exact .string _

theorem ofJson_toJson (r : TagRecord) : ofJson r.toJson = some r := by
  have hmembers : r.toJson.members ["name", "author", "tagged_at"] =
      some [some (.string r.name), some (.string r.author), some r.taggedAt.toJson] := rfl
  unfold ofJson
  rw [hmembers]
  simp only [Option.bind_eq_bind, Option.bind_some, Json.asString, Time.Instant.ofJson_toJson]
  rfl

end TagRecord

namespace Store

variable {st : Store} {f : File} {v : Version} {ts : List Tagging}

theorem sees_of_taggings (h : (f.run (st.taggings v)).1 = .ok ts) : f.isBlocked st.connection = false := by
  by_contra hb
  have hask : f.run (st.ask (.readTaggings (st.describe v)) fun db => db.taggings st.tenant v) =
      (.error (.storage (.readTaggings (st.describe v)) .locked), f) := by
    rw [run_ask, File.sight, if_pos (Bool.not_eq_false _ ▸ hb)]
    rfl
  rw [taggings, File.run_bind, hask] at h
  cases h

/-- The taggings of a version tell the records that a copy of it takes. -/
theorem records_of_taggings (h : (f.run (st.taggings v)).1 = .ok ts) :
    f.run (st.records v) = (.ok (ts.map Tagging.record), f) := by
  have hb := sees_of_taggings h
  have hrows := (taggings_ok_iff hb v ts).1 h
  have hrecords : (f.run (st.records v)).1 = .ok (ts.map Tagging.record) := by
    refine (records_ok_iff hb v _).2 ?_
    rw [List.forall₂_map_right_iff]
    exact hrows.imp fun _ _ ht => ht.isRecord
  have hsame : (f.run (st.records v)).2 = f := by rw [records, run_ask]
  exact Prod.ext hrecords hsame

/-- **Putting the records of a report on a version is copying** the version the report is of. -/
theorem run_addTags_of_taggings (h : (f.run (st.taggings v)).1 = .ok ts) (u : Version) :
    f.run (st.addTags u (ts.map Tagging.record)) = f.run (st.copyTags v u) := by
  rw [copyTags, File.run_bind, records_of_taggings h]

end Store

/-- Reports of taggings can be written and read without a loss. -/
structure Json.KeepsReports : Prop where
  records : Keeps (fun _ => True) TagRecord.toJson TagRecord.ofJson
  taggings : Keeps Tagging.HasId Tagging.toJson Tagging.ofJson
  /-- An absent path is a missing field. -/
  path (t : Tagging) : t.toJson.members ["resource_path"] = some [t.path.map .string]
  path_missing (fs : List (String × Json)) (t : Tagging) :
    Tagging.ofJson (.object fs) = some t → field? fs "resource_path" = none → t.path = none
  /-- What is printed of taggings is read as their records. -/
  resubmitted (ts : List Tagging) : ∃ s, Request.taggingsLines .json ts = [.answer s] ∧
    (read s >>= asList TagRecord.ofJson) = some (ts.map Tagging.record)
  /-- The records of a report put what a copy puts. -/
  copied (st : Store) (f : File) (v u : Version) (ts : List Tagging) : (f.run (st.taggings v)).1 = .ok ts →
    f.run (st.addTags u (ts.map Tagging.record)) = f.run (st.copyTags v u)

/-- **Taggings and records come back from JSON as they were.** -/
theorem Json.reports_come_back : KeepsReports where
  records := .of_back TagRecord.integral_toJson (fun r _ => r.ofJson_toJson) fun _ _ _ => trivial
  taggings := .of_back Tagging.integral_toJson (fun _ h => Tagging.ofJson_toJson h) fun _ _ => Tagging.hasId_of_ofJson
  path := by
    rintro ⟨id, name, author, taggedAt, path⟩
    cases path <;> rfl
  path_missing := by
    intro fs t h hp
    obtain ⟨i, n, a, time, p, hmembers, -, -, -, -, hpath⟩ := Tagging.ofJson_eq_some h
    obtain rfl : p = none := by
      have hlast := congrArg (fun ms => ms.map List.getLast?) hmembers
      simpa [members, hp] using hlast.symm
    exact (Option.some.inj hpath).symm
  resubmitted := by
    intro ts
    refine ⟨(Json.array (ts.map Tagging.toJson)).pretty, rfl, ?_⟩
    have hall : Integral (.array (ts.map Tagging.toJson)) := by
      refine .array fun j hj => ?_
      obtain ⟨t, -, rfl⟩ := List.mem_map.1 hj
      exact t.integral_toJson
    rw [read_pretty hall]
    exact Tagging.mapM_recordOf_toJson ts
  copied := fun _ _ _ u _ h => Store.run_addTags_of_taggings h u

/-- The last second of the last year, a leap second with a fraction, has a tagging with the least id. -/
theorem Json.last_instant_comes_back :
    let t : Tagging := ⟨Decimal.minInt64, "\n\"", "", ⟨⟨262142, 12, 31, by decide⟩, 23, 59, 60, 1, by decide⟩, none⟩
    t.HasId ∧ (read t.toJson.pretty >>= Tagging.ofJson) = some t := by
  intro t
  have ht : t.HasId := by
    constructor <;> decide
  exact ⟨ht, reports_come_back.taggings.back_pretty t ht⟩

end VersionTags
