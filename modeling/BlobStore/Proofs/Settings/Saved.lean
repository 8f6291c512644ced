import Mathlib
import BlobStore.Proofs.Files
import BlobStore.Proofs.Json.Values
import BlobStore.Settings.File

/-!
# Saved settings

Settings that were saved are loaded as they were, whatever id, driver and options are, if a text can
hold the options (`Storable`). So the text of a file tells which settings were saved in it, and saved
again they have the same text (`saved_settings_kept`).
-/

namespace BlobStore

namespace Json.Doc

theorem record?_ofMembers {names : List String} {members : List (String × Json)}
    (hknown : ∀ m ∈ members, m.1 ∈ names) (hnodup : (members.map (·.1)).Nodup) :
    record? names (.obj (ofMembers members)) = some (members.map fun m => (m.1, ofJson m.2)) := by
  have hnamed : (ofMembers members).mapM (fun e => e.1.map (·, e.2)) =
      some (members.map fun m => (m.1, ofJson m.2)) := by
    clear hknown hnodup
    induction members with
    | nil => rfl
    | cons m members ih =>
      rw [ofMembers, List.mapM_cons, ih]
      rfl
  have hall : (members.map fun m => (m.1, ofJson m.2)).filter (fun e => names.contains e.1) =
      members.map fun m => (m.1, ofJson m.2) := by
    refine List.filter_eq_self.mpr fun e he => ?_
    obtain ⟨m, hm, rfl⟩ := List.mem_map.mp he
    exact List.contains_iff_mem.mpr (hknown m hm)
  have hdistinct : ((members.map fun m => (m.1, ofJson m.2)).map (·.1)).Nodup := by
    rwa [List.map_map]
  rw [record?, hnamed, Option.bind_eq_bind, Option.bind_some, hall, if_pos hdistinct]

end Json.Doc

/-! ## Settings and their document -/

/-- Options that a text holds: numbers are whole, members are in order, and with the two objects
around them they are not nested too deep to be read. -/
structure Storable (options : Json) : Prop where
  whole : options.Whole
  ordered : options.Ordered
  shallow : options.depth + 2 ≤ Json.Doc.maxDepth

namespace StoreSettings

theorem whole_toJson {s : StoreSettings} (h : s.options.Whole) : s.toJson.Whole := by
  refine .obj fun m hm => ?_
  rcases (by simpa using hm : m = ("id", .str s.id) ∨ m = ("driver", .str s.driver) ∨
    m = ("options", s.options)) with rfl | rfl | rfl
  · exact .str s.id
  · exact .str s.driver
  · exact h

theorem ofDoc?_ofJson {s : StoreSettings} (h : Storable s.options) :
    ofDoc? (Json.Doc.maxDepth - 2) (Json.Doc.ofJson s.toJson) = some s := by
  have hoptions : (Json.Doc.ofJson s.options).value? (Json.Doc.maxDepth - 2) = some s.options :=
    Json.Doc.value?_ofJson h.whole h.ordered (Nat.le_sub_of_add_le h.shallow)
  have hrecord := @Json.Doc.record?_ofMembers (parts.map (·.name))
    [("id", .str s.id), ("driver", .str s.driver), ("options", s.options)]
    (by simp [parts, Json.Part.ofText]) (by simp)
  rw [ofDoc?, toJson, Json.Doc.ofJson, hrecord, Option.bind_eq_bind, Option.bind_some]
  have hid : (Json.Doc.ofJson (.str s.id)).value? (Json.Doc.maxDepth - 2) = some (.str s.id) := rfl
  have hdriver : (Json.Doc.ofJson (.str s.driver)).value? (Json.Doc.maxDepth - 2) =
    some (.str s.driver) := rfl
  simp only [List.map_cons, List.map_nil, List.foldlM_cons, List.foldlM_nil, hid, hdriver, hoptions,
    Option.bind_eq_bind, Option.bind_some]
  rfl

end StoreSettings

namespace AppSettings

theorem whole_toJson {a : AppSettings} (h : a.store.options.Whole) : a.toJson.Whole := by
  refine .obj fun m hm => ?_
  obtain rfl := List.mem_singleton.mp hm
  exact StoreSettings.whole_toJson h

theorem ofDoc?_ofJson {a : AppSettings} (h : Storable a.store.options) :
    ofDoc? (Json.Doc.ofJson a.toJson) = some a := by
  have hrecord := @Json.Doc.record?_ofMembers (parts.map (·.name))
    [("store", a.store.toJson)] (by simp [parts]) (by simp)
  rw [ofDoc?, toJson, Json.Doc.ofJson, hrecord, Option.bind_eq_bind, Option.bind_some, List.map_cons]
  simp only [StoreSettings.ofDoc?_ofJson h, Option.bind_eq_bind, Option.bind_some]
  rfl

/-- **Settings are read off the text that they are written as.** -/
theorem ofText?_text {a : AppSettings} (h : Storable a.store.options) : ofText? a.text = some a := by
  rw [ofText?, text, toJson, Json.parse?_pretty (whole_toJson h.whole), Option.bind_some]
  exact ofDoc?_ofJson h

theorem text_injective {a b : AppSettings} (ha : Storable a.store.options)
    (hb : Storable b.store.options) (h : a.text = b.text) : a = b := by
  have hread := ofText?_text ha
  rw [h, ofText?_text hb] at hread
  exact (Option.some.inj hread).symm

/-! ## Files -/

theorem fromUTF8?_toUTF8 (text : String) : String.fromUTF8? text.toUTF8 = some text :=
  dif_pos text.isValidUTF8

theorem readText?_of_save {a : AppSettings} {fs fs' : Files} {path : String}
    (h : a.save fs path = .ok fs') : fs'.readText? path = some a.text ∧ fs'.contains path = true := by
  rw [save] at h
  split at h
  · cases h
  · next fs₁ hwrite =>
    obtain rfl := Except.ok.inj h
    have hread := Files.read?_of_write? hwrite
    refine ⟨?_, Files.contains_of_read? hread⟩
    rw [Files.readText?, hread, Option.bind_some, fromUTF8?_toUTF8]

theorem load_of_save {a : AppSettings} (ha : Storable a.store.options) {fs fs' : Files}
    {path : String} (h : a.save fs path = .ok fs') : load fs' path = .ok a := by
  obtain ⟨hread, hthere⟩ := readText?_of_save h
  simp only [load, if_pos hthere, hread, ofText?_text ha]

/-- **Saving loses nothing.** Settings that were saved are loaded as they were. Settings that differ
are saved as different texts, and what was loaded is saved as the text that it was loaded from. -/
theorem saved_settings_kept {a : AppSettings} (ha : Storable a.store.options) {fs fs' : Files}
    {path : String} (hsave : a.save fs path = .ok fs') :
    load fs' path = .ok a ∧
    (∀ (b : AppSettings) (gs gs' : Files) (path' : String), Storable b.store.options → a ≠ b →
      b.save gs path' = .ok gs' → gs'.readText? path' ≠ fs'.readText? path) ∧
    ∀ (loaded : AppSettings) (gs gs' : Files) (path' : String), load fs' path = .ok loaded →
      loaded.save gs path' = .ok gs' → gs'.readText? path' = fs'.readText? path := by
  have hload := load_of_save ha hsave
  refine ⟨hload, fun b gs gs' path' hb hne hsave' heq => ?_, fun loaded gs gs' path' hloaded hsave' => ?_⟩
  · rw [(readText?_of_save hsave).1, (readText?_of_save hsave').1] at heq
    exact hne (text_injective ha hb (Option.some.inj heq).symm)
  · rw [hload] at hloaded
    obtain rfl := Except.ok.inj hloaded
    rw [(readText?_of_save hsave).1, (readText?_of_save hsave').1]

/-- Options with a list, the least and the greatest whole number, and names that are empty or hold a
control character. -/
def nestedSettings : AppSettings where
  store :=
    { id := "a \"b\""
      driver := "s3\\\n"
      options := .obj [("", .arr [.null, .bool true, .int (-9223372036854775808), .obj []]),
        ("\x01", .int 18446744073709551615), ("é", .str "\x7f\t/")] }

/-- The tree with the nested settings saved in the working folder. -/
def nestedFiles : Files :=
  Files.empty.put (Files.home ++ ["config.json".toList]) (.file nestedSettings.text.toUTF8)

theorem storable_nestedSettings : Storable nestedSettings.store.options where
  whole := by
    refine .obj ?_
    simp only [List.forall_mem_cons]
    refine ⟨.arr ?_, .int (by omega) (by omega), .str _, List.forall_mem_nil _⟩
    simp only [List.forall_mem_cons]
    exact ⟨.null, .bool true, .int (by omega) (by omega), .obj (List.forall_mem_nil _),
      List.forall_mem_nil _⟩
  ordered := by
    refine .obj (by decide) ?_
    simp only [List.forall_mem_cons]
    refine ⟨.arr ?_, .int _, .str _, List.forall_mem_nil _⟩
    simp only [List.forall_mem_cons]
    exact ⟨.null, .bool true, .int _, .obj .nil (List.forall_mem_nil _), List.forall_mem_nil _⟩
  shallow := by decide

theorem save_nestedSettings :
    nestedSettings.save Files.empty "config.json" = .ok nestedFiles := by
  have hplace : Files.empty.locate "config.json" = some (Files.home ++ ["config.json".toList]) := by
    decide +kernel
  have hfree : Files.empty.find? (Files.home ++ ["config.json".toList]) ≠ some .folder := by
    decide +kernel
  simp only [save, Files.write?, hplace, Option.bind_eq_bind, Option.bind_some, if_neg hfree]
  rfl

theorem saved_settings_kept_nested_options :
    Storable nestedSettings.store.options ∧
    nestedSettings.save Files.empty "config.json" = .ok nestedFiles ∧
    load nestedFiles "config.json" = .ok nestedSettings ∧
    (∀ (gs gs' : Files) (path : String), default.save gs path = .ok gs' →
      gs'.readText? path ≠ nestedFiles.readText? "config.json") ∧
    ∀ (gs gs' : Files) (path : String), nestedSettings.save gs path = .ok gs' →
      gs'.readText? path = nestedFiles.readText? "config.json" := by
  obtain ⟨hload, hother, hagain⟩ := saved_settings_kept storable_nestedSettings save_nestedSettings
  have hdefault : Storable default.store.options :=
    ⟨.obj (by simp), .obj .nil (by simp), by decide⟩
  have hne : nestedSettings ≠ default := by
    intro h
    have hid : nestedSettings.store.id = default.store.id := by rw [h]
    exact absurd hid (by decide)
  exact ⟨storable_nestedSettings, save_nestedSettings, hload,
    fun gs gs' path => hother default gs gs' path hdefault hne,
    fun gs gs' path => hagain nestedSettings gs gs' path hload⟩

end AppSettings

end BlobStore
