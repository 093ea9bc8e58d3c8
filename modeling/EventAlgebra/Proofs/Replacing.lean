import EventAlgebra.Store
import EventAlgebra.Volume
import Mathlib.Data.List.Infix
import Mathlib.Data.List.Lookmap

/-!
# Replacing a file

A library file is replaced through a temporary file beside it. Here is what the two steps do to a
volume: writing the temporary file leaves what the library path leads to as it is
(`Volume.find_writeBytes?_temporary`), and moving the temporary file over the library file brings
its bytes there (`Volume.find_move?`). It makes no difference whether a path starts at the root or
in the working directory (`Volume.find_absolutePath`).

Following a path looks at directories only, and a change at a file makes no directory and takes
none away. A volume need not be in order: entries may be listed below a file. Such entries are out
of reach, since every step is taken from a directory (`Volume.Accessible`).
-/

set_option autoImplicit false

namespace EventAlgebra.Volume

/-! ## Entries after a change -/

theorem lookup_filter (keep : Location → Bool) (entries : List (Location × Entry))
    (location : Location) :
    List.lookup location (entries.filter fun listed => keep listed.1) =
      if keep location then List.lookup location entries else none := by
  induction entries with
  | nil => simp
  | cons listed entries ih =>
      obtain ⟨place, entry⟩ := listed
      by_cases hplace : location = place
      · subst hplace
        by_cases hkeep : keep location = true
        · simp [hkeep]
        · simpa [hkeep] using ih
      · have hbeq : (location == place) = false := beq_eq_false_iff_ne.2 hplace
        by_cases hkeep : keep place = true
        · simpa [hkeep, List.lookup_cons, hbeq] using ih
        · simpa [hkeep, List.lookup_cons, hbeq] using ih

/-- What is at a location after an entry was put somewhere else than on the way to the working
directory. -/
theorem entry?_insert (volume : Volume) {location : Location}
    (h : volume.leadsHome location = false) (entry : Entry) (other : Location) :
    Volume.entry? (volume.insert location entry) other =
      if other = location then some entry else volume.entry? other := by
  have hlookup : List.lookup other (volume.insert location entry).entries =
      if other = location then some entry else List.lookup other volume.entries := by
    have hfilter := lookup_filter (fun place => decide (place ≠ location)) volume.entries other
    rw [insert, List.lookup_append, hfilter]
    by_cases hother : other = location
    · simp [hother]
    · have hbeq : (other == location) = false := beq_eq_false_iff_ne.2 hother
      simp [hother, hbeq, List.lookup_cons]
  have hhome : (volume.insert location entry).leadsHome other = volume.leadsHome other := rfl
  rw [ entry?, entry?, hlookup, hhome]
  by_cases hother : other = location
  · simp [hother, h]
  · simp [hother]

/-- What is at a location after something else was taken away. -/
theorem entry?_remove (volume : Volume) {location other : Location} (h : ¬ location <+: other) :
    Volume.entry? (volume.remove location) other = volume.entry? other := by
  have hleads : location.isPrefixOf other = false := by
    simpa [← List.isPrefixOf_iff_prefix] using h
  have hfilter := lookup_filter (fun place => !location.isPrefixOf place) volume.entries other
  have hhome : (volume.remove location).leadsHome other = volume.leadsHome other := rfl
  rw [ entry?, entry?, hhome, remove, hfilter]
  simp [hleads]

/-- Nothing is left at a location whose entry was taken away. -/
theorem entry?_remove_self (volume : Volume) {location : Location}
    (h : volume.leadsHome location = false) :
    Volume.entry? (volume.remove location) location = none := by
  have hleads : location.isPrefixOf location = true := by
    simp [List.isPrefixOf_iff_prefix]
  have hfilter := lookup_filter (fun place => !location.isPrefixOf place) volume.entries location
  have hhome : (volume.remove location).leadsHome location = false := h
  rw [ entry?, hhome, remove, hfilter]
  simp [hleads]

/-! ## Following paths after a change -/

/-- A location that is reached through directories. -/
def Accessible (volume : Volume) (location : Location) : Prop :=
  ∀ above, above <+: location → above ≠ location → volume.entry? above = some .directory

/-- The root is accessible, and so is the working directory. -/
theorem accessible_startOf (volume : Volume) (path : String) :
    volume.Accessible (volume.startOf path) := by
  rw [startOf]
  split
  · intro above hleads hne
    exact absurd (List.prefix_nil.1 hleads) hne
  · intro above hleads _
    have hhome : volume.leadsHome above = true := List.isPrefixOf_iff_prefix.2 hleads
    rw [ entry?, if_pos hhome]

theorem Accessible.above {volume : Volume} {location above : Location}
    (h : volume.Accessible location) (hleads : above <+: location) : volume.Accessible above := by
  intro higher hhigher hne
  refine h higher (hhigher.trans hleads) ?_
  rintro rfl
  exact hne (hhigher.eq_of_length_le hleads.length_le)

theorem prefix_concat_cases {above location : Location} {step : String}
    (hleads : above <+: location ++ [step]) (hne : above ≠ location ++ [step]) :
    above <+: location := by
  rcases List.prefix_concat_iff.1 hleads with heq | hleads
  · exact absurd heq hne
  · exact hleads

/-- A directory that is reached through directories makes the next place accessible. -/
theorem Accessible.takeStep? {volume : Volume} {location next : Location} {step : String}
    (h : volume.Accessible location) (hdirectory : volume.entry? location = some .directory)
    (hstep : takeStep? location step = some next) : volume.Accessible next := by
  -- a place right below the location is reached through what leads to the location, and through it
  have hbelow : ∀ name, volume.Accessible (location ++ [name]) := by
    intro name above hleads hne
    have habove := prefix_concat_cases hleads hne
    by_cases heq : above = location
    · rw [heq]
      exact hdirectory
    · exact h above habove heq
  rw [Volume.takeStep?] at hstep
  split at hstep
  · obtain rfl := Option.some.inj hstep
    exact h
  · split at hstep
    · obtain rfl := Option.some.inj hstep
      exact h.above (List.dropLast_prefix location)
    · split at hstep
      · obtain rfl := Option.some.inj hstep
        exact hbelow step
      · cases hstep

/-- Two volumes with the same working directory and the same directories, as far as they can be
reached. -/
structure SameWays (volume other : Volume) : Prop where
  home : other.home = volume.home
  directory : ∀ location, volume.Accessible location →
    (other.entry? location = some .directory ↔ volume.entry? location = some .directory)

theorem SameWays.refl (volume : Volume) : volume.SameWays volume :=
  ⟨rfl, fun _ _ => Iff.rfl⟩

theorem Accessible.of_sameWays {volume other : Volume} (hways : volume.SameWays other)
    {location : Location} (h : volume.Accessible location) : other.Accessible location := by
  intro above hleads hne
  exact (hways.directory above (h.above hleads)).2 (h above hleads hne)

theorem SameWays.trans {volume other third : Volume} (h : volume.SameWays other)
    (h' : other.SameWays third) : volume.SameWays third := by
  refine ⟨h'.home.trans h.home, fun location haccessible => ?_⟩
  rw [h'.directory location (haccessible.of_sameWays h), h.directory location haccessible]

/-- Steps lead to the same place in volumes with the same directories. -/
theorem SameWays.follow? {volume other : Volume} (h : volume.SameWays other) (steps : List String)
    {location : Location} (haccessible : volume.Accessible location) :
    other.follow? location steps = volume.follow? location steps := by
  induction steps generalizing location with
  | nil => rfl
  | cons step steps ih =>
      rw [Volume.follow?, Volume.follow?]
      by_cases hdirectory : volume.entry? location = some .directory
      · rw [if_pos hdirectory, if_pos ((h.directory location haccessible).2 hdirectory)]
        cases hstep : takeStep? location step with
        | none => rfl
        | some next => exact ih (haccessible.takeStep? hdirectory hstep)
      · have hother : other.entry? location ≠ some .directory := fun hother =>
          hdirectory ((h.directory location haccessible).1 hother)
        rw [if_neg hdirectory, if_neg hother]

/-- A place to which steps lead is accessible. -/
theorem accessible_of_follow? {volume : Volume} {steps : List String} {location final : Location}
    (haccessible : volume.Accessible location) (h : volume.follow? location steps = some final) :
    volume.Accessible final := by
  induction steps generalizing location with
  | nil =>
      obtain rfl := Option.some.inj h
      exact haccessible
  | cons step steps ih =>
      rw [follow?] at h
      split at h
      · rename_i hdirectory
        obtain ⟨next, hstep, hrest⟩ := Option.bind_eq_some_iff.1 h
        exact ih (haccessible.takeStep? hdirectory hstep) hrest
      · cases h

theorem leadsHome_eq_false {volume : Volume} {location : Location}
    (h : volume.entry? location ≠ some .directory) : volume.leadsHome location = false := by
  cases hhome : volume.leadsHome location with
  | false => rfl
  | true => simp [ entry?, hhome] at h

/-- A file put where there is no directory changes no directory. -/
theorem sameWays_insert {volume : Volume} {location : Location}
    (h : volume.entry? location ≠ some .directory) (content : ByteArray) :
    volume.SameWays (volume.insert location (.file content)) := by
  refine ⟨rfl, fun other _ => ?_⟩
  rw [entry?_insert volume (leadsHome_eq_false h)]
  by_cases hother : other = location
  · simp [hother, h]
  · simp [hother]

/-- Taking a file away changes no directory that can be reached. -/
theorem sameWays_remove {volume : Volume} {location : Location} {content : ByteArray}
    (h : volume.entry? location = some (.file content)) :
    volume.SameWays (volume.remove location) := by
  have hne : volume.entry? location ≠ some .directory := by simp [h]
  refine ⟨rfl, fun other haccessible => ?_⟩
  by_cases hother : other = location
  · simp [hother, entry?_remove_self volume (leadsHome_eq_false hne), h]
  · -- what stands below the file cannot be reached
    have hleads : ¬ location <+: other := fun hleads =>
      hne (haccessible location hleads (Ne.symm hother))
    rw [entry?_remove volume hleads]

/-! ## Destinations -/

theorem SameWays.place? {volume other : Volume} (h : volume.SameWays other) (path : String) :
    other.place? path = volume.place? path := by
  have hstart : other.startOf path = volume.startOf path := by
    rw [startOf, startOf, h.home]
  rw [Volume.place?, hstart]
  exact h.follow? (pathSteps path) (volume.accessible_startOf path)

/-- The place to which a path leads is accessible. -/
theorem accessible_of_place? {volume : Volume} {path : String} {location : Location}
    (h : volume.place? path = some location) : volume.Accessible location :=
  accessible_of_follow? (volume.accessible_startOf path) h

/-- A path leads to the same thing in volumes with the same directories, if what is at its place is
the same. -/
theorem SameWays.find {volume other : Volume} (h : volume.SameWays other) {path : String}
    (hentry : ∀ location, volume.place? path = some location →
      other.entry? location = volume.entry? location) : other.find path = volume.find path := by
  simp only [Volume.find, h.place? path]
  cases hplace : volume.place? path with
  | none => rfl
  | some location => simp only [hentry location hplace]

/-- Whether a path can be that of a file. -/
def namesFile (path : String) : Bool :=
  isPath path && !namesDirectory path

/-- A path leads to a file if it can be that of a file and there is a file at its place. -/
theorem find_eq_file_iff {volume : Volume} {path : String} {location : Location}
    {content : ByteArray} :
    volume.find path = .present location (.file content) ↔
      namesFile path = true ∧ volume.place? path = some location ∧
        volume.entry? location = some (.file content) := by
  simp only [find, namesFile, Bool.and_eq_true, Bool.not_eq_true']
  grind

/-- A file can be written where a path leads to a place without a directory. -/
theorem fileLocation?_eq_some_iff {volume : Volume} {path : String} {location : Location} :
    volume.fileLocation? path = some location ↔
      namesFile path = true ∧ volume.place? path = some location ∧
        volume.entry? location ≠ some .directory := by
  simp only [fileLocation?, find, namesFile, Bool.and_eq_true, Bool.not_eq_true']
  grind

/-! ## Absolute paths -/

theorem isName_iff {name : String} :
    isName name = true ↔ name ≠ "" ∧ name ≠ "." ∧ name ≠ ".." ∧ name.utf8ByteSize ≤ nameLimit ∧
      '/' ∉ name.toList := by
  simp [isName, and_assoc]

theorem splitAtSlash_slash {cs : List Char} (h : '/' ∉ cs) (part rest : List Char) :
    pathSteps.splitAtSlash part (cs ++ '/' :: rest) =
      (part.reverse ++ cs) :: pathSteps.splitAtSlash [] rest := by
  induction cs generalizing part with
  | nil => simp [pathSteps.splitAtSlash]
  | cons c cs ih =>
      rw [List.mem_cons, not_or] at h
      rw [List.cons_append, pathSteps.splitAtSlash, ih h.2, List.reverse_cons, List.append_assoc]
      · rfl
      · exact fun hslash => h.1 hslash.symm

/-- A name and a slash in front of a path are one more step. -/
theorem pathSteps_name {name : String} (h : isName name = true) (path : String) :
    pathSteps (name ++ "/" ++ path) = name :: pathSteps path := by
  obtain ⟨hne, -, -, -, hslash⟩ := isName_iff.1 h
  have htext : (name ++ "/" ++ path).toList = name.toList ++ '/' :: path.toList := by simp
  rw [pathSteps, htext, splitAtSlash_slash hslash, List.reverse_nil, List.nil_append,
    List.filter_cons_of_pos (by simp [hne]), List.map_cons, String.ofList_toList]
  rfl

/-- A path with the names of the directories that lead to it in front. -/
def pathBelow (location : Location) (path : String) : String :=
  location.foldr (fun name rest => name ++ "/" ++ rest) path

theorem pathSteps_pathBelow {location : Location} (h : ∀ name ∈ location, isName name = true)
    (path : String) : pathSteps (pathBelow location path) = location ++ pathSteps path := by
  induction location with
  | nil => rfl
  | cons name location ih =>
      rw [List.forall_mem_cons] at h
      have hname := pathSteps_name h.1 (pathBelow location path)
      rw [ih h.2] at hname
      exact hname

theorem toList_pathBelow (location : Location) (path : String) :
    ∃ front, (pathBelow location path).toList = front ++ path.toList := by
  induction location with
  | nil => exact ⟨[], rfl⟩
  | cons name location ih =>
      obtain ⟨front, hfront⟩ := ih
      refine ⟨name.toList ++ '/' :: front, ?_⟩
      rw [pathBelow, List.foldr_cons, ← pathBelow]
      simp [hfront]

/-- The absolute form of a relative path. -/
def absolutePath (volume : Volume) (path : String) : String :=
  "/" ++ pathBelow volume.home path

/-- The steps to the working directory come first. -/
theorem pathSteps_absolutePath (volume : Volume) (path : String) :
    pathSteps (volume.absolutePath path) = volume.home ++ pathSteps path := by
  have hslash : pathSteps (volume.absolutePath path) = pathSteps (pathBelow volume.home path) := by
    simp [pathSteps, absolutePath, pathSteps.splitAtSlash]
  rw [hslash]
  exact pathSteps_pathBelow volume.working.isName_of_mem path

/-- The names of the directories that lead to the working directory lead there from the root. -/
theorem follow?_home (volume : Volume) (steps : List String) :
    volume.follow? [] (volume.home ++ steps) = volume.follow? volume.home steps := by
  have hdown : ∀ names above, above ++ names = volume.home →
      volume.follow? above (names ++ steps) = volume.follow? volume.home steps := by
    intro names
    induction names with
    | nil =>
        intro above habove
        rw [← habove, List.append_nil, List.nil_append]
    | cons name names ih =>
        intro above habove
        have hhome : volume.leadsHome above = true :=
          List.isPrefixOf_iff_prefix.2 ⟨name :: names, habove⟩
        have hmem : name ∈ volume.home := by
          rw [← habove]
          simp
        obtain ⟨-, hhere, hup, hlength, -⟩ :=
          isName_iff.1 (volume.working.isName_of_mem name hmem)
        have hstep : takeStep? above name = some (above ++ [name]) := by
          rw [takeStep?, if_neg hhere, if_neg hup, if_pos hlength]
        rw [List.cons_append, follow?, entry?, if_pos hhome, if_pos rfl, hstep, Option.bind_some]
        exact ih (above ++ [name]) (by rw [List.append_assoc]; exact habove)
  exact hdown volume.home [] rfl

/-- A relative path leads to what its absolute form leads to, unless that is too long for a path. -/
theorem find_absolutePath (volume : Volume) {path : String} (hrelative : isAbsolute path = false)
    (hpath : isPath path = true) (hlength : isPath (volume.absolutePath path) = true) :
    volume.find (volume.absolutePath path) = volume.find path := by
  have hplace : volume.place? (volume.absolutePath path) = volume.place? path := by
    have habsolute : isAbsolute (volume.absolutePath path) = true := by
      simp [isAbsolute, absolutePath]
    rw [place?, place?, startOf, startOf, habsolute, hrelative, pathSteps_absolutePath]
    exact volume.follow?_home (pathSteps path)
  have hslash : namesDirectory (volume.absolutePath path) = namesDirectory path := by
    -- a path is not empty, so that both end alike
    obtain ⟨front, hfront⟩ := toList_pathBelow volume.home path
    have htext : (volume.absolutePath path).toList = ('/' :: front) ++ path.toList := by
      simp [absolutePath, hfront]
    have hne : path.toList ≠ [] := by
      intro hempty
      rw [String.toList_eq_nil_iff.1 hempty] at hpath
      cases hpath
    rw [namesDirectory, namesDirectory, htext, List.getLast?_append_of_ne_nil _ hne]
  rw [find, find, hpath, hlength, hplace, hslash]

/-- A path may also leave the working directory and come back by its name. -/
example :
    let volume : Volume := ⟨[(["desk", "library.json"], .file "[]".toUTF8)]⟩
    volume.find "/desk/library.json" = volume.find "library.json" ∧
      volume.find "../desk/library.json" = volume.find "library.json" := by
  decide +kernel

/-! ## Writing and moving -/

/-- After a write the path leads to a file with the bytes written. -/
theorem find_writeBytes? {volume after : Volume} {path : String} {content : ByteArray}
    (h : volume.writeBytes? path content = some after) :
    ∃ location, after.find path = .present location (.file content) := by
  obtain ⟨location, hlocation, rfl⟩ := Option.map_eq_some_iff.1 h
  obtain ⟨hnames, hplace, hentry⟩ := fileLocation?_eq_some_iff.1 hlocation
  refine ⟨location, find_eq_file_iff.2 ⟨hnames, ?_, ?_⟩⟩
  · rw [(sameWays_insert hentry content).place?, hplace]
  · rw [entry?_insert volume (leadsHome_eq_false hentry), if_pos rfl]

/-- A write leaves what another path leads to as it is, unless both lead to the same place. -/
theorem find_writeBytes?_of_ne {volume after : Volume} {path other : String} {content : ByteArray}
    (h : volume.writeBytes? path content = some after)
    (hne : ∀ location, volume.place? path = some location → volume.place? other ≠ some location) :
    after.find other = volume.find other := by
  obtain ⟨location, hlocation, rfl⟩ := Option.map_eq_some_iff.1 h
  obtain ⟨-, hplace, hentry⟩ := fileLocation?_eq_some_iff.1 hlocation
  refine (sameWays_insert hentry content).find fun place hother => ?_
  rw [entry?_insert volume (leadsHome_eq_false hentry), if_neg]
  rintro rfl
  exact hne place hplace hother

/-- A file that is moved is found at the target with its bytes. -/
theorem find_move? {volume after : Volume} {source target : String}
    (h : volume.move? source target = some after) :
    ∃ origin location content, volume.find source = .present origin (.file content) ∧
      after.find target = .present location (.file content) := by
  unfold move? at h
  split at h
  · rename_i origin content location hsource htarget
    obtain rfl := Option.some.inj h
    obtain ⟨-, -, horigin⟩ := find_eq_file_iff.1 hsource
    obtain ⟨hnames, hplace, hentry⟩ := fileLocation?_eq_some_iff.1 htarget
    have hremove := sameWays_remove horigin
    -- the target is no directory, neither before nor after the source was taken away
    have haccessible := accessible_of_place? hplace
    have hfree : Volume.entry? (volume.remove origin) location ≠ some .directory :=
      fun hdirectory => hentry ((hremove.directory location haccessible).1 hdirectory)
    refine ⟨origin, location, content, hsource, find_eq_file_iff.2 ⟨hnames, ?_, ?_⟩⟩
    · rw [(hremove.trans (sameWays_insert hfree content)).place?, hplace]
    · rw [entry?_insert _ (leadsHome_eq_false hfree), if_pos rfl]
  · cases h

/-! ## The temporary file -/

/-- A text without slashes behind a path lengthens the part behind the last slash. -/
theorem splitAtSlash_append {suffix : List Char} (hsuffix : '/' ∉ suffix) (cs part : List Char) :
    ∃ parts last, pathSteps.splitAtSlash part cs = parts ++ [last] ∧
      pathSteps.splitAtSlash part (cs ++ suffix) = parts ++ [last ++ suffix] := by
  induction cs generalizing part with
  | nil =>
      refine ⟨[], part.reverse, rfl, ?_⟩
      rw [List.nil_append]
      induction suffix generalizing part with
      | nil => simp [pathSteps.splitAtSlash]
      | cons c suffix ih =>
          rw [List.mem_cons, not_or] at hsuffix
          rw [pathSteps.splitAtSlash, ih hsuffix.2]
          · simp
          · exact fun hslash => hsuffix.1 hslash.symm
  | cons c cs ih =>
      by_cases hslash : c = '/'
      · subst hslash
        obtain ⟨parts, last, hparts, hlonger⟩ := ih []
        exact ⟨part.reverse :: parts, last, by simp [pathSteps.splitAtSlash, hparts],
          by simp [pathSteps.splitAtSlash, hlonger]⟩
      · obtain ⟨parts, last, hparts, hlonger⟩ := ih (c :: part)
        refine ⟨parts, last, ?_, ?_⟩
        · rw [pathSteps.splitAtSlash, hparts]
          exact hslash
        · rw [List.cons_append, pathSteps.splitAtSlash, hlonger]
          exact hslash

/-- The temporary file of a path is in the directory that the path leads to, or it stands beside
the last step of the path. -/
theorem pathSteps_temporary (path : String) :
    pathSteps (Store.temporary path) = pathSteps path ++ [".tmp"] ∨
      ∃ steps last, pathSteps path = steps ++ [last] ∧
        pathSteps (Store.temporary path) = steps ++ [last ++ ".tmp"] := by
  have hsuffix : '/' ∉ ".tmp".toList := by decide
  obtain ⟨parts, last, hparts, hlonger⟩ := splitAtSlash_append hsuffix path.toList []
  have htemporary : pathSteps (Store.temporary path) =
      (parts.filter (! ·.isEmpty)).map String.ofList ++
        [String.ofList (last ++ ".tmp".toList)] := by
    have hkept : ([last ++ ".tmp".toList].filter (! ·.isEmpty)) = [last ++ ".tmp".toList] := by
      simp
    rw [pathSteps, Store.temporary, String.toList_append, hlonger, List.filter_append, hkept,
      List.map_append]
    rfl
  rw [htemporary, pathSteps, hparts, List.filter_append, List.map_append]
  cases last with
  | nil => exact Or.inl (by simp)
  | cons c last =>
      refine Or.inr ⟨_, String.ofList (c :: last), rfl, ?_⟩
      rw [String.ofList_append, String.ofList_toList]

/-- The temporary file of a path is looked for from where the path itself is. -/
theorem startOf_temporary (volume : Volume) (path : String) :
    volume.startOf (Store.temporary path) = volume.startOf path := by
  have hhead : isAbsolute (Store.temporary path) = isAbsolute path := by
    rw [isAbsolute, isAbsolute, Store.temporary, String.toList_append]
    cases path.toList with
    | nil => decide
    | cons c cs => rfl
  rw [startOf, startOf, hhead]

/-- A step that goes neither nowhere nor up leads into the directory. -/
theorem takeStep?_name {location next : Location} {step : String} (hhere : step ≠ ".")
    (hup : step ≠ "..") (h : takeStep? location step = some next) : next = location ++ [step] := by
  rw [takeStep?, if_neg hhere, if_neg hup] at h
  split at h
  · exact (Option.some.inj h).symm
  · cases h

theorem follow?_append (volume : Volume) (steps more : List String) (location : Location) :
    volume.follow? location (steps ++ more) =
      (volume.follow? location steps).bind fun next => volume.follow? next more := by
  induction steps generalizing location with
  | nil => rfl
  | cons step steps ih =>
      rw [List.cons_append, follow?, follow?]
      split
      · rw [Option.bind_assoc]
        congr 1
        funext next
        exact ih next
      · rfl

/-- The last of several steps, by itself. -/
theorem follow?_concat {volume : Volume} {steps : List String} {step : String}
    {location final : Location} (h : volume.follow? location (steps ++ [step]) = some final) :
    ∃ directory, volume.follow? location steps = some directory ∧
      takeStep? directory step = some final := by
  rw [follow?_append] at h
  obtain ⟨directory, hdirectory, hstep⟩ := Option.bind_eq_some_iff.1 h
  refine ⟨directory, hdirectory, ?_⟩
  rw [follow?] at hstep
  split at hstep
  · simpa [follow?] using hstep
  · cases hstep

/-- A name with an ending is no step to the same or to a higher place. -/
theorem append_tmp_ne (name : String) : name ++ ".tmp" ≠ "." ∧ name ++ ".tmp" ≠ ".." := by
  have hlength : (name ++ ".tmp").length = name.length + 4 := String.length_append _ _
  have hhere : ".".length = 1 := by decide
  have hup : "..".length = 2 := by decide
  constructor
  · intro h
    rw [h, hhere] at hlength
    omega
  · intro h
    rw [h, hup] at hlength
    omega

/-- The temporary file is never at the place of the file it is for. -/
theorem place?_temporary_ne (volume : Volume) (path : String) (location : Location)
    (h : volume.place? (Store.temporary path) = some location) :
    volume.place? path ≠ some location := by
  intro hpath
  rw [place?, startOf_temporary] at h
  rw [place?] at hpath
  rcases pathSteps_temporary path with hinside | ⟨steps, last, hsteps, hbeside⟩
  · -- the temporary file is in the place of the path
    rw [hinside] at h
    obtain ⟨directory, hdirectory, hstep⟩ := follow?_concat h
    obtain rfl : directory = location := Option.some.inj (hdirectory.symm.trans hpath)
    have hbelow := takeStep?_name (by decide) (by decide) hstep
    exact absurd hbelow (by simp)
  · -- both are in the directory that the steps before lead to
    rw [hsteps] at hpath
    rw [hbeside] at h
    obtain ⟨directory, hdirectory, hstep⟩ := follow?_concat h
    obtain ⟨directory', hdirectory', hstep'⟩ := follow?_concat hpath
    obtain rfl : directory = directory' := Option.some.inj (hdirectory.symm.trans hdirectory')
    obtain rfl := takeStep?_name (append_tmp_ne last).1 (append_tmp_ne last).2 hstep
    rw [takeStep?] at hstep'
    split at hstep'
    · simp at hstep'
    · split at hstep'
      · have hlength := congrArg List.length (Option.some.inj hstep')
        rw [List.length_dropLast, List.length_append, List.length_singleton] at hlength
        omega
      · split at hstep'
        · have hname := (List.append_inj' (Option.some.inj hstep') rfl).2
          have hlength := congrArg String.length (List.singleton_inj.1 hname)
          simp at hlength
        · cases hstep'

/-- Writing the temporary file leaves what the path itself leads to as it is. -/
theorem find_writeBytes?_temporary {volume after : Volume} {path : String} {content : ByteArray}
    (h : volume.writeBytes? (Store.temporary path) content = some after) :
    after.find path = volume.find path :=
  find_writeBytes?_of_ne h (volume.place?_temporary_ne path)

end EventAlgebra.Volume
