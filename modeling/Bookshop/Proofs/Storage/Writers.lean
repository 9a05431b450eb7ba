import Bookshop.Proofs.Storage.Folder

/-!
# Writers side by side

Several calls may write into one folder at the same time. Each of them takes two steps, and between
its steps the others may take theirs. All calls that write one key share one temporary file, so a
step of one may fall between the two of another. Then the second call to give the file its name
finds none, and fails.

The main statement is `writing_outcome`: whatever the order of the steps, a key reads as it did or as
the whole of a value that was passed for it, and the calls for a key all succeed if and only if no
two of them are under way at the same time.
-/

namespace Bookshop

/-! ### The files of a key -/

namespace Folder

/-- What has the name of the file of a key. -/
def fileOf (key : String) (folder : Folder) : Option FolderEntry :=
  folder.get? (FileName.ofKey key)

/-- What has the name of the temporary file of a key. -/
def temporaryOf (key : String) (folder : Folder) : Option FolderEntry :=
  folder.get? (FileName.temporary (FileName.ofKey key))

/-- The folder after the first step of writing a key. -/
def staged (key : String) (bytes : Bytes) (folder : Folder) : Folder :=
  folder.insert (FileName.temporary (FileName.ofKey key)) (.file bytes)

/-- The folder after the second step of writing a key, with what the temporary file held. -/
def published (key : String) (bytes : Bytes) (folder : Folder) : Folder :=
  (folder.erase (FileName.temporary (FileName.ofKey key))).insert (FileName.ofKey key) (.file bytes)

variable {folder : Folder} {key : String}

theorem fileOf_staged (key other : String) (bytes : Bytes) (folder : Folder) :
    (folder.staged key bytes).fileOf other = folder.fileOf other := by
  rw [fileOf, staged, Table.get?_insert, if_neg (FileName.temporary_ne_ofKey _ _).symm, fileOf]

theorem temporaryOf_staged (key other : String) (bytes : Bytes) (folder : Folder) :
    (folder.staged key bytes).temporaryOf other =
      if other = key then some (.file bytes) else folder.temporaryOf other := by
  rw [temporaryOf, staged, Table.get?_insert]
  by_cases h : other = key
  · rw [if_pos h, h, if_pos rfl]
  · rw [if_neg h, if_neg fun heq => h (FileName.temporary_ofKey_injective heq), temporaryOf]

theorem fileOf_published (key other : String) (bytes : Bytes) (folder : Folder) :
    (folder.published key bytes).fileOf other =
      if other = key then some (.file bytes) else folder.fileOf other := by
  rw [fileOf, published, Table.get?_insert]
  by_cases h : other = key
  · rw [if_pos h, h, if_pos rfl]
  · rw [if_neg h, if_neg fun heq => h (FileName.ofKey_injective heq), Table.get?_erase,
      if_neg (FileName.temporary_ne_ofKey _ _).symm, fileOf]

theorem temporaryOf_published (key other : String) (bytes : Bytes) (folder : Folder) :
    (folder.published key bytes).temporaryOf other =
      if other = key then none else folder.temporaryOf other := by
  rw [temporaryOf, published, Table.get?_insert, if_neg (FileName.temporary_ne_ofKey _ _),
    Table.get?_erase]
  by_cases h : other = key
  · rw [if_pos h, h, if_pos rfl]
  · rw [if_neg h, if_neg fun heq => h (FileName.temporary_ofKey_injective heq), temporaryOf]

theorem Accepts.sameFolders_staged (h : folder.Accepts key) (bytes : Bytes) :
    folder.SameFolders (folder.staged key bytes) :=
  sameFolders_insert h.temporaryFree bytes

theorem Accepts.sameFolders_published (h : folder.Accepts key) (bytes : Bytes) :
    folder.SameFolders (folder.published key bytes) := by
  have herased := sameFolders_erase h.temporaryFree
  exact herased.trans (sameFolders_insert (herased.free h.fileFree) bytes)

theorem publish_of_temporaryOf_none (h : folder.Accepts key) (hnone : folder.temporaryOf key = none) :
    publish key folder = .error .noSuchFolder := by
  rw [temporaryOf] at hnone
  simp only [publish, renameFile, h.temporaryFits, h.fileFits, Bool.or_self, Bool.false_eq_true,
    if_false, hnone]

/-- What a key reads as is what its file holds. -/
theorem medium_get_of_fileOf (hfits : FileName.isTooLong (FileName.ofKey key) = false)
    {bytes : Bytes} (h : folder.fileOf key = some (.file bytes)) :
    (medium.get key folder).1 = .ok (some bytes) := by
  rw [fileOf] at h
  simp only [medium, readFile, hfits, Bool.false_eq_true, if_false, h]

theorem medium_get_congr {after : Folder} (h : after.fileOf key = folder.fileOf key) :
    (medium.get key after).1 = (medium.get key folder).1 := by
  rw [fileOf, fileOf] at h
  simp only [medium, readFile, h]
  split <;> rfl

end Folder

/-! ### Calls -/

/-- A call to write a value under a key. -/
structure WriteCall where
  key : String
  bytes : Bytes
deriving DecidableEq, Repr

/-- How far a call has come. -/
inductive WritePhase where
  | waiting
  /-- The temporary file is written, and has to get the name of the file of the key. -/
  | staged
  | ended (result : Except StorageError Unit)

/-- The number of steps that a call has taken. -/
def WritePhase.taken : WritePhase → Nat
  | .waiting => 0
  | .staged => 1
  | .ended _ => 2

/-- Where the first step leads: to the second one, or to the end if it fails. -/
def WritePhase.afterStage (change : Except FileFault Folder) (before : Folder) :
    WritePhase × Folder :=
  match change with
  | .ok after => (.staged, after)
  | .error cause => (.ended (.error (.file cause)), before)

/-- The second step ends the call. -/
def WritePhase.afterPublish (change : Except FileFault Folder) (before : Folder) :
    WritePhase × Folder :=
  (.ended (Folder.commit change before).1, (Folder.commit change before).2)

/-- The next step of a call. -/
def WriteCall.step (call : WriteCall) (phase : WritePhase) (folder : Folder) :
    WritePhase × Folder :=
  match phase with
  | .waiting => WritePhase.afterStage (Folder.stage call.key call.bytes folder) folder
  | .staged => WritePhase.afterPublish (Folder.publish call.key folder) folder
  | .ended result => (.ended result, folder)

/-- A call whose steps nobody comes between is the access to the folder as a medium. -/
theorem WriteCall.step_step (call : WriteCall) (folder : Folder) :
    let first := call.step .waiting folder
    let set := Folder.medium.set call.key call.bytes folder
    call.step first.1 first.2 = (.ended set.1, set.2) := by
  simp only [step, Folder.medium]
  cases Folder.stage call.key call.bytes folder <;> rfl

/-- Calls that write into one folder. Each call is known by its place in the list of calls. -/
structure Writing where
  phase : Nat → WritePhase
  folder : Folder

namespace Writing

def start (folder : Folder) : Writing := ⟨fun _ => .waiting, folder⟩

/-- The call comes to a phase, and the folder is changed. -/
def advance (n : Nat) (phase : WritePhase) (folder : Folder) (s : Writing) : Writing :=
  ⟨fun m => if m = n then phase else s.phase m, folder⟩

/-- The call with a number takes its next step. -/
def step (calls : List WriteCall) (s : Writing) (n : Nat) : Writing :=
  match calls[n]? with
  | some call =>
    let next := call.step (s.phase n) s.folder
    s.advance n next.1 next.2
  | none => s

/-- The calls take steps as a schedule has it. -/
def run (calls : List WriteCall) (s : Writing) (schedule : List Nat) : Writing :=
  schedule.foldl (step calls) s

/-- The call with the number writes the key. -/
def Writes (calls : List WriteCall) (key : String) (n : Nat) : Prop :=
  ∃ call, calls[n]? = some call ∧ call.key = key

/-- Every call takes both of its steps. -/
def Complete (calls : List WriteCall) (schedule : List Nat) : Prop :=
  ∀ n < calls.length, schedule.count n = 2

instance (calls : List WriteCall) (schedule : List Nat) : Decidable (Complete calls schedule) := by
  unfold Complete
  infer_instance

/-- At no time two calls for the key are under way, each with one of its steps taken. -/
def Apart (calls : List WriteCall) (key : String) (schedule : List Nat) : Prop :=
  ∀ front, front <+: schedule → ∀ m n, Writes calls key m → Writes calls key n →
    front.count m = 1 → front.count n = 1 → m = n

variable {calls : List WriteCall} {s after : Writing} {key : String} {n : Nat}

@[simp] theorem phase_advance (n m : Nat) (phase : WritePhase) (folder : Folder) (s : Writing) :
    (s.advance n phase folder).phase m = if m = n then phase else s.phase m := rfl

@[simp] theorem folder_advance (n : Nat) (phase : WritePhase) (folder : Folder) (s : Writing) :
    (s.advance n phase folder).folder = folder := rfl

theorem Writes.lt (h : Writes calls key n) : n < calls.length := by
  obtain ⟨call, hcall, -⟩ := h
  exact (List.getElem?_eq_some_iff.1 hcall).1

theorem Writes.key_eq (h : Writes calls key n) {call : WriteCall} (hcall : calls[n]? = some call) :
    call.key = key := by
  obtain ⟨writing, hwriting, hkey⟩ := h
  rw [hwriting] at hcall
  cases hcall
  exact hkey

/-! ### What a step can do -/

/-- The steps of the call with a number. -/
inductive Move (calls : List WriteCall) (n : Nat) (s : Writing) : Writing → Prop where
  /-- There is no such call, or it has ended. -/
  | rest (hended : ∀ call, calls[n]? = some call → ∃ result, s.phase n = .ended result) :
      Move calls n s s
  | stage {call : WriteCall} (hcall : calls[n]? = some call) (hphase : s.phase n = .waiting) :
      Move calls n s (s.advance n .staged (s.folder.staged call.key call.bytes))
  | publish {call : WriteCall} {bytes : Bytes} (hcall : calls[n]? = some call)
      (hphase : s.phase n = .staged) (hfile : s.folder.temporaryOf call.key = some (.file bytes)) :
      Move calls n s (s.advance n (.ended (.ok ())) (s.folder.published call.key bytes))
  /-- Another call has taken the temporary file away. -/
  | fail {call : WriteCall} (hcall : calls[n]? = some call) (hphase : s.phase n = .staged)
      (hnone : s.folder.temporaryOf call.key = none) :
      Move calls n s (s.advance n (.ended (.error (.file .noSuchFolder))) s.folder)

theorem advance_self (s : Writing) (n : Nat) : s.advance n (s.phase n) s.folder = s := by
  have hphase : (fun m => if m = n then s.phase n else s.phase m) = s.phase := by
    funext m
    split
    · next h => rw [h]
    · rfl
  rw [advance, hphase]

/-- The file system refuses nothing that the calls do on their own. -/
def Accepted (calls : List WriteCall) (folder : Folder) : Prop :=
  ∀ call ∈ calls, folder.Accepts call.key

/-- An empty folder accepts calls with names that fit. -/
theorem accepted_empty (hfits : ∀ call ∈ calls,
      FileName.isTooLong (FileName.ofKey call.key) = false ∧
        FileName.isTooLong (FileName.temporary (FileName.ofKey call.key)) = false) :
    Accepted calls Table.empty := by
  intro call hcall
  obtain ⟨hfile, htemporary⟩ := hfits call hcall
  exact ⟨hfile, htemporary, fun _ => nofun, fun _ => nofun⟩

theorem move_step (h : Accepted calls s.folder) (n : Nat) : Move calls n s (s.step calls n) := by
  unfold step
  cases hcall : calls[n]? with
  | none => exact .rest fun call h => by simp [hcall] at h
  | some call =>
    have haccepts := h call (List.mem_of_getElem? hcall)
    cases hphase : s.phase n with
    | waiting =>
      simp only [WriteCall.step, Folder.stage_eq haccepts]
      exact .stage hcall hphase
    | staged =>
      cases hfound : s.folder.temporaryOf call.key with
      | none =>
        simp only [WriteCall.step, Folder.publish_of_temporaryOf_none haccepts hfound]
        exact .fail hcall hphase hfound
      | some found =>
        cases found with
        | file bytes =>
          simp only [WriteCall.step, Folder.publish_eq haccepts hfound]
          exact .publish hcall hphase hfound
        | folder number => exact absurd hfound (haccepts.temporaryFree number)
    | ended result =>
      simp only [WriteCall.step]
      rw [← hphase, advance_self]
      exact .rest fun _ _ => ⟨result, hphase⟩

theorem Move.sameFolders (h : Accepted calls s.folder) (hmove : Move calls n s after) :
    s.folder.SameFolders after.folder := by
  cases hmove with
  | rest => exact fun _ _ => Iff.rfl
  | stage hcall => exact (h _ (List.mem_of_getElem? hcall)).sameFolders_staged _
  | publish hcall => exact (h _ (List.mem_of_getElem? hcall)).sameFolders_published _
  | fail => exact fun _ _ => Iff.rfl

theorem Move.accepted (h : Accepted calls s.folder) (hmove : Move calls n s after) :
    Accepted calls after.folder :=
  fun call hcall => (h call hcall).of_sameFolders (hmove.sameFolders h)

/-- A step of a call leaves the files of other keys and the other calls alone. -/
theorem Move.frame (hmove : Move calls n s after) (hn : ¬ Writes calls key n) :
    after.folder.fileOf key = s.folder.fileOf key ∧
      after.folder.temporaryOf key = s.folder.temporaryOf key ∧
      ∀ m, Writes calls key m → after.phase m = s.phase m := by
  have hother : ∀ m, Writes calls key m → m ≠ n := fun m hm heq => hn (heq ▸ hm)
  have hkey : ∀ call, calls[n]? = some call → key ≠ call.key :=
    fun call hcall heq => hn ⟨call, hcall, heq.symm⟩
  cases hmove with
  | rest => exact ⟨rfl, rfl, fun _ _ => rfl⟩
  | stage hcall =>
    refine ⟨Folder.fileOf_staged _ _ _ _, ?_, fun m hm => if_neg (hother m hm)⟩
    rw [folder_advance, Folder.temporaryOf_staged, if_neg (hkey _ hcall)]
  | publish hcall =>
    refine ⟨?_, ?_, fun m hm => if_neg (hother m hm)⟩
    · rw [folder_advance, Folder.fileOf_published, if_neg (hkey _ hcall)]
    · rw [folder_advance, Folder.temporaryOf_published, if_neg (hkey _ hcall)]
  | fail => exact ⟨rfl, rfl, fun m hm => if_neg (hother m hm)⟩

/-- A call that has ended stays so. -/
theorem Move.phase_of_ended (hmove : Move calls n s after) {m : Nat}
    {result : Except StorageError Unit} (h : s.phase m = .ended result) :
    after.phase m = .ended result := by
  have hne : ∀ phase, s.phase n = phase → (∀ result, phase ≠ .ended result) → m ≠ n := by
    rintro phase hphase hopen rfl
    exact hopen result (hphase.symm.trans h)
  cases hmove with
  | rest => exact h
  | stage hcall hphase => exact (if_neg (hne _ hphase fun _ => nofun)).trans h
  | publish hcall hphase => exact (if_neg (hne _ hphase fun _ => nofun)).trans h
  | fail hcall hphase => exact (if_neg (hne _ hphase fun _ => nofun)).trans h

/-- The calls that a move ends succeed, or find no temporary file. -/
theorem Move.ended (hmove : Move calls n s after) {m : Nat} {result : Except StorageError Unit}
    (h : after.phase m = .ended result) :
    s.phase m = .ended result ∨ result = .ok () ∨ result = .error (.file .noSuchFolder) := by
  cases hmove with
  | rest => exact .inl h
  | stage | publish | fail =>
    rw [phase_advance] at h
    split at h
    · cases h <;> simp
    · exact .inl h

/-! ### What always holds -/

/-- A property of the steps taken so far and the state they lead to holds after a run when every move
    keeps it. -/
theorem run_induction {Inv : List Nat → Writing → Prop}
    (hmove : ∀ front s n after, Inv front s → Move calls n s after → Inv (front ++ [n]) after)
    (haccepted : Accepted calls s.folder) (front : List Nat) (h : Inv front s)
    (schedule : List Nat) : Inv (front ++ schedule) (s.run calls schedule) := by
  induction schedule generalizing s front with
  | nil =>
    rw [List.append_nil]
    exact h
  | cons n schedule ih =>
    have hstep := move_step haccepted n
    have hrest := ih (hstep.accepted haccepted) (front ++ [n]) (hmove front s n _ h hstep)
    rw [List.append_assoc, List.singleton_append] at hrest
    exact hrest

theorem run_accepted (haccepted : Accepted calls s.folder) (schedule : List Nat) :
    Accepted calls (s.run calls schedule).folder := by
  induction schedule generalizing s with
  | nil => exact haccepted
  | cons n schedule ih => exact ih ((move_step haccepted n).accepted haccepted)

/-- The phases are in step with the schedule, and the only failure there can be is that of the
    rename. -/
structure Counted (calls : List WriteCall) (front : List Nat) (s : Writing) : Prop where
  taken_eq : ∀ n < calls.length, (s.phase n).taken = min (front.count n) 2
  result : ∀ n result, s.phase n = .ended result →
    result = .ok () ∨ result = .error (.file .noSuchFolder)

theorem counted_start (folder : Folder) : Counted calls [] (start folder) where
  taken_eq _ _ := rfl
  result _ _ h := by cases h

theorem Counted.move {front : List Nat} (h : Counted calls front s)
    (hmove : Move calls n s after) : Counted calls (front ++ [n]) after := by
  have hcount : ∀ m, (front ++ [n]).count m = front.count m + if n = m then 1 else 0 := by
    intro m
    simp only [List.count_append, List.count_singleton, beq_iff_eq]
  refine ⟨?_, ?_⟩
  · intro m hm
    have htaken := h.taken_eq m hm
    rw [hcount]
    cases hmove with
    | rest hended =>
      by_cases heq : m = n
      · subst heq
        obtain ⟨result, hphase⟩ := hended _ (List.getElem?_eq_getElem hm)
        rw [hphase] at htaken ⊢
        simp only [WritePhase.taken, if_pos] at htaken ⊢
        omega
      · rw [htaken, if_neg (Ne.symm heq), Nat.add_zero]
    | stage hcall hphase | publish hcall hphase | fail hcall hphase =>
      rw [phase_advance]
      by_cases heq : m = n
      · subst heq
        rw [hphase] at htaken
        simp only [WritePhase.taken, if_pos] at htaken ⊢
        omega
      · rw [if_neg heq, if_neg (Ne.symm heq), htaken, Nat.add_zero]
  · intro m result hresult
    rcases hmove.ended hresult with hbefore | hend
    · exact h.result m result hbefore
    · exact hend

theorem Counted.staged_iff {front : List Nat} (h : Counted calls front s) (hn : n < calls.length) :
    s.phase n = .staged ↔ front.count n = 1 := by
  have htaken := h.taken_eq n hn
  cases hphase : s.phase n <;> rw [hphase] at htaken <;> simp [WritePhase.taken] at htaken ⊢ <;> omega

/-- The files of a key hold what was there before or a value that was passed for the key. Of the
    temporary file that is so once a call for the key has begun. -/
structure Sound (calls : List WriteCall) (folder : Folder) (s : Writing) : Prop where
  file : ∀ key, s.folder.fileOf key = folder.fileOf key ∨
    ∃ call ∈ calls, call.key = key ∧ s.folder.fileOf key = some (.file call.bytes)
  temporary : ∀ key n, Writes calls key n → s.phase n ≠ .waiting →
    s.folder.temporaryOf key = none ∨
      ∃ call ∈ calls, call.key = key ∧ s.folder.temporaryOf key = some (.file call.bytes)

theorem sound_start (folder : Folder) : Sound calls folder (start folder) where
  file _ := .inl rfl
  temporary _ _ _ h := absurd rfl h

theorem Sound.move {folder : Folder} (h : Sound calls folder s) (hmove : Move calls n s after) :
    Sound calls folder after := by
  refine ⟨?_, ?_⟩
  · intro key
    by_cases hn : Writes calls key n
    · cases hmove with
      | rest => exact h.file key
      | stage =>
        rw [folder_advance, Folder.fileOf_staged]
        exact h.file key
      | publish hcall hphase hfile =>
        obtain rfl := hn.key_eq hcall
        -- The temporary file has come from some call for the key.
        rcases h.temporary _ n hn (by simp [hphase]) with hnone | ⟨call, hmem, hkey, hbytes⟩
        · rw [hnone] at hfile
          cases hfile
        · rw [hfile] at hbytes
          refine .inr ⟨call, hmem, hkey, ?_⟩
          rw [folder_advance, Folder.fileOf_published, if_pos rfl, hbytes]
      | fail => exact h.file key
    · rw [(hmove.frame hn).1]
      exact h.file key
  · intro key m hm hphase
    by_cases hn : Writes calls key n
    · cases hmove with
      | rest => exact h.temporary key m hm hphase
      | stage hcall =>
        obtain rfl := hn.key_eq hcall
        refine .inr ⟨_, List.mem_of_getElem? hcall, rfl, ?_⟩
        rw [folder_advance, Folder.temporaryOf_staged, if_pos rfl]
      | publish hcall =>
        obtain rfl := hn.key_eq hcall
        rw [folder_advance, Folder.temporaryOf_published, if_pos rfl]
        exact .inl rfl
      | fail hcall _ hnone =>
        obtain rfl := hn.key_eq hcall
        exact .inl hnone
    · obtain ⟨-, htemporary, hphases⟩ := hmove.frame hn
      rw [hphases m hm] at hphase
      rw [htemporary]
      exact h.temporary key m hm hphase

/-! ### Calls apart -/

/-- A call that is between its steps finds its own value in the temporary file of its key, and no
    call for the key has failed. -/
structure Undisturbed (calls : List WriteCall) (key : String) (s : Writing) : Prop where
  staged : ∀ n call, calls[n]? = some call → call.key = key → s.phase n = .staged →
    s.folder.temporaryOf key = some (.file call.bytes)
  ended : ∀ n result, Writes calls key n → s.phase n = .ended result → result = .ok ()

/-- At most one call for the key is between its steps. -/
def Single (calls : List WriteCall) (key : String) (s : Writing) : Prop :=
  ∀ m n, Writes calls key m → Writes calls key n → s.phase m = .staged → s.phase n = .staged → m = n

theorem undisturbed_start (folder : Folder) : Undisturbed calls key (start folder) where
  staged _ _ _ _ h := by cases h
  ended _ _ _ h := by cases h

theorem Undisturbed.move (h : Undisturbed calls key s) (hmove : Move calls n s after)
    (hbefore : Single calls key s) (hafter : Single calls key after) :
    Undisturbed calls key after := by
  by_cases hn : Writes calls key n
  · cases hmove with
    | rest => exact h
    | @stage writing hcall hphase =>
      obtain rfl := hn.key_eq hcall
      refine ⟨?_, ?_⟩
      · intro m call hm hkey hstaged
        obtain rfl : m = n := hafter m n ⟨call, hm, hkey⟩ hn hstaged (if_pos rfl)
        obtain rfl : call = writing := Option.some.inj (hm.symm.trans hcall)
        rw [folder_advance, Folder.temporaryOf_staged, if_pos rfl]
      · intro m result hm hresult
        rw [phase_advance] at hresult
        split at hresult
        · cases hresult
        · exact h.ended m result hm hresult
    | publish hcall hphase =>
      refine ⟨?_, ?_⟩
      · intro m call hm hkey hstaged
        rw [phase_advance] at hstaged
        split at hstaged
        · cases hstaged
        · next hne => exact absurd (hbefore m n ⟨call, hm, hkey⟩ hn hstaged hphase) hne
      · intro m result hm hresult
        rw [phase_advance] at hresult
        split at hresult
        · cases hresult
          rfl
        · exact h.ended m result hm hresult
    | fail hcall hphase hnone =>
      obtain rfl := hn.key_eq hcall
      rw [h.staged n _ hcall rfl hphase] at hnone
      cases hnone
  · obtain ⟨-, htemporary, hphases⟩ := hmove.frame hn
    refine ⟨?_, ?_⟩
    · intro m call hm hkey hstaged
      rw [hphases m ⟨call, hm, hkey⟩] at hstaged
      rw [htemporary]
      exact h.staged m call hm hkey hstaged
    · intro m result hm hresult
      rw [hphases m hm] at hresult
      exact h.ended m result hm hresult

/-- What keeps the calls of a schedule apart leaves at most one of them between its steps. -/
theorem Counted.single {front schedule : List Nat} (h : Counted calls front s)
    (hapart : Apart calls key schedule) (hfront : front <+: schedule) : Single calls key s := by
  intro m n hm hn hmstaged hnstaged
  exact hapart front hfront m n hm hn ((h.staged_iff hm.lt).1 hmstaged)
    ((h.staged_iff hn.lt).1 hnstaged)

variable {folder : Folder} {schedule : List Nat}

theorem counted_run (haccepted : Accepted calls folder) (schedule : List Nat) :
    Counted calls schedule ((start folder).run calls schedule) :=
  run_induction (fun _ _ _ _ => Counted.move) haccepted [] (counted_start folder) schedule

theorem sound_run (haccepted : Accepted calls folder) (schedule : List Nat) :
    Sound calls folder ((start folder).run calls schedule) := by
  have hmove : ∀ (_ : List Nat) s n after, Sound calls folder s → Move calls n s after →
      Sound calls folder after := fun _ _ _ _ h hmove => h.move hmove
  exact run_induction hmove haccepted [] (sound_start folder) schedule

theorem undisturbed_run (haccepted : Accepted calls folder) (hapart : Apart calls key schedule)
    {front : List Nat} (hfront : front <+: schedule) :
    Undisturbed calls key ((start folder).run calls front) := by
  -- The schedule decides only about fronts of it, so the invariant does not say more.
  have hmove : ∀ front s n after,
      (Counted calls front s ∧ (front <+: schedule → Undisturbed calls key s)) →
      Move calls n s after →
      Counted calls (front ++ [n]) after ∧
        (front ++ [n] <+: schedule → Undisturbed calls key after) := by
    rintro front s n after ⟨hcounted, hundisturbed⟩ hmove
    have hlater := hcounted.move hmove
    refine ⟨hlater, ?_⟩
    intro hlong
    have hshort := (List.prefix_append front [n]).trans hlong
    exact (hundisturbed hshort).move hmove (hcounted.single hapart hshort)
      (hlater.single hapart hlong)
  have hrun := run_induction hmove haccepted []
    ⟨counted_start folder, fun _ => undisturbed_start folder⟩ front
  exact hrun.2 hfront

/-! ### Calls that succeed -/

/-- At most one call for the key is between its steps, and then the temporary file is there. -/
structure Exclusive (calls : List WriteCall) (key : String) (s : Writing) : Prop where
  single : Single calls key s
  present : ∀ n, Writes calls key n → s.phase n = .staged → s.folder.temporaryOf key ≠ none

/-- If it is so after a move in which no call for the key fails, it was so before. -/
theorem Move.exclusive (hmove : Move calls n s after) (h : Exclusive calls key after)
    (hok : ∀ result, Writes calls key n → after.phase n = .ended result → result = .ok ()) :
    Exclusive calls key s := by
  by_cases hn : Writes calls key n
  · cases hmove with
    | rest => exact h
    | stage hcall hphase =>
      -- A call that was between its steps would be a second one afterwards.
      have hnone : ∀ m, Writes calls key m → s.phase m ≠ .staged := by
        intro m hm hstaged
        have hne : m ≠ n := by
          rintro rfl
          rw [hphase] at hstaged
          cases hstaged
        exact hne (h.single m n hm hn ((if_neg hne).trans hstaged) (if_pos rfl))
      exact ⟨fun m _ hm _ hstaged => absurd hstaged (hnone m hm),
        fun m hm hstaged => absurd hstaged (hnone m hm)⟩
    | publish hcall hphase hfile =>
      have hkey := hn.key_eq hcall
      -- The temporary file is gone afterwards, so nobody else was between steps.
      have honly : ∀ m, Writes calls key m → s.phase m = .staged → m = n := by
        intro m hm hstaged
        by_cases hne : m = n
        · exact hne
        · apply absurd _ (h.present m hm ((if_neg hne).trans hstaged))
          rw [folder_advance, Folder.temporaryOf_published, if_pos hkey.symm]
      refine ⟨?_, ?_⟩
      · intro l m hl hm hlstaged hmstaged
        rw [honly l hl hlstaged, honly m hm hmstaged]
      · intro m _ _
        rw [← hkey, hfile]
        exact Option.some_ne_none _
    | fail =>
      have hresult := hok _ hn (if_pos rfl)
      cases hresult
  · obtain ⟨-, htemporary, hphases⟩ := hmove.frame hn
    refine ⟨?_, ?_⟩
    · intro l m hl hm hlstaged hmstaged
      rw [← hphases l hl] at hlstaged
      rw [← hphases m hm] at hmstaged
      exact h.single l m hl hm hlstaged hmstaged
    · intro m hm hstaged
      rw [← hphases m hm] at hstaged
      rw [← htemporary]
      exact h.present m hm hstaged

theorem run_phase_of_ended (haccepted : Accepted calls s.folder) {result : Except StorageError Unit}
    (h : s.phase n = .ended result) (schedule : List Nat) :
    (s.run calls schedule).phase n = .ended result := by
  induction schedule generalizing s with
  | nil => exact h
  | cons m schedule ih =>
    have hmove := move_step haccepted m
    exact ih (hmove.accepted haccepted) (hmove.phase_of_ended h)

/-- Before a run that ends with success for every call of the key, no two of them are between their
    steps. The induction goes back from the end of the run. -/
theorem exclusive_of_ok (haccepted : Accepted calls s.folder)
    (hok : ∀ n, Writes calls key n → (s.run calls schedule).phase n = .ended (.ok ())) :
    Exclusive calls key s := by
  induction schedule generalizing s with
  | nil =>
    have hnone : ∀ m, Writes calls key m → s.phase m ≠ .staged := by
      intro m hm hstaged
      have hended : s.phase m = .ended (.ok ()) := hok m hm
      rw [hended] at hstaged
      cases hstaged
    exact ⟨fun m _ hm _ hstaged => absurd hstaged (hnone m hm),
      fun m hm hstaged => absurd hstaged (hnone m hm)⟩
  | cons m schedule ih =>
    have hmove := move_step haccepted m
    have hlater := hmove.accepted haccepted
    apply hmove.exclusive (ih hlater hok)
    intro result hm hended
    have hend := run_phase_of_ended hlater hended schedule
    have hresult := (hok m hm).symm.trans hend
    cases hresult
    rfl

theorem run_append (s : Writing) (front back : List Nat) :
    s.run calls (front ++ back) = (s.run calls front).run calls back :=
  List.foldl_append

/-- Steps of calls for other keys leave the file of a key alone. -/
theorem fileOf_run (haccepted : Accepted calls s.folder)
    (hothers : ∀ n ∈ schedule, ¬ Writes calls key n) :
    (s.run calls schedule).folder.fileOf key = s.folder.fileOf key := by
  induction schedule generalizing s with
  | nil => rfl
  | cons n schedule ih =>
    have hmove := move_step haccepted n
    have hfirst := (hmove.frame (hothers n List.mem_cons_self)).1
    have hrest := ih (hmove.accepted haccepted)
      (fun m hm => hothers m (List.mem_cons_of_mem _ hm))
    exact hrest.trans hfirst

/-! ### The outcome -/

theorem apart_of_ok (haccepted : Accepted calls folder)
    (hok : ∀ n, Writes calls key n →
      ((start folder).run calls schedule).phase n = .ended (.ok ())) :
    Apart calls key schedule := by
  intro front hfront m n hm hn hmcount hncount
  obtain ⟨back, rfl⟩ := hfront
  have hcounted := counted_run haccepted front
  rw [run_append] at hok
  have hexclusive := exclusive_of_ok (run_accepted (s := start folder) haccepted front) hok
  exact hexclusive.single m n hm hn ((hcounted.staged_iff hm.lt).2 hmcount)
    ((hcounted.staged_iff hn.lt).2 hncount)

theorem ok_of_apart (haccepted : Accepted calls folder) (hcomplete : Complete calls schedule)
    (hapart : Apart calls key schedule) (hn : Writes calls key n) :
    ((start folder).run calls schedule).phase n = .ended (.ok ()) := by
  have htaken := (counted_run haccepted schedule).taken_eq n hn.lt
  rw [hcomplete n hn.lt] at htaken
  have hundisturbed := undisturbed_run haccepted hapart (List.prefix_refl schedule)
  cases hphase : ((start folder).run calls schedule).phase n with
  | waiting =>
    rw [hphase] at htaken
    cases htaken
  | staged =>
    rw [hphase] at htaken
    cases htaken
  | ended result => rw [hundisturbed.ended n result hn hphase]

/-- The call whose rename comes last gives the key its value. -/
theorem fileOf_of_last (haccepted : Accepted calls folder) {front back : List Nat}
    (hcomplete : Complete calls (front ++ n :: back))
    (hapart : Apart calls key (front ++ n :: back)) {call : WriteCall}
    (hcall : calls[n]? = some call) (hkey : call.key = key)
    (hlast : ∀ m ∈ back, ¬ Writes calls key m) :
    ((start folder).run calls (front ++ n :: back)).folder.fileOf key = some (.file call.bytes) := by
  have hn : Writes calls key n := ⟨call, hcall, hkey⟩
  have hcount : front.count n = 1 := by
    have hback : back.count n = 0 := List.count_eq_zero.2 fun hmem => hlast n hmem hn
    have htwo := hcomplete n hn.lt
    rw [List.count_append, List.count_cons_self, hback] at htwo
    omega
  have hfront : front <+: front ++ n :: back := List.prefix_append _ _
  have hstaged := ((counted_run haccepted front).staged_iff hn.lt).2 hcount
  have hbytes := (undisturbed_run haccepted hapart hfront).staged n call hcall hkey hstaged
  have hmiddle := run_accepted (s := start folder) haccepted front
  have hmove := move_step hmiddle n
  rw [run_append]
  change (((((start folder).run calls front).step calls n).run calls back).folder).fileOf key = _
  rw [fileOf_run (hmove.accepted hmiddle) hlast]
  subst hkey
  simp only [step, hcall, hstaged, WriteCall.step,
    Folder.publish_eq (hmiddle call (List.mem_of_getElem? hcall)) hbytes]
  exact (Folder.fileOf_published _ _ _ _).trans (if_pos rfl)

/-- **Writers in one folder.** Calls write values under keys that the file system accepts, and their
    steps are taken in any order.

    At any time a key reads as it did before, or as the whole of a value that was passed for it, and
    a call that has ended has succeeded or has not found its temporary file. When every call has
    taken both of its steps, all calls for a key have succeeded if and only if no two of them were
    under way at the same time; and then the key reads as the value of the call whose rename came
    last. -/
theorem writing_outcome (calls : List WriteCall) (folder : Folder) (schedule : List Nat)
    (haccepted : Accepted calls folder) :
    let last := (start folder).run calls schedule
    (∀ key, (Folder.medium.get key last.folder).1 = (Folder.medium.get key folder).1 ∨
      ∃ call ∈ calls, call.key = key ∧
        (Folder.medium.get key last.folder).1 = .ok (some call.bytes)) ∧
    (∀ n result, last.phase n = .ended result →
      result = .ok () ∨ result = .error (.file .noSuchFolder)) ∧
    (Complete calls schedule →
      (∀ n < calls.length, ∃ result, last.phase n = .ended result) ∧
      ∀ key,
        ((∀ n, Writes calls key n → last.phase n = .ended (.ok ())) ↔ Apart calls key schedule) ∧
        (Apart calls key schedule → ∀ front n back call, schedule = front ++ n :: back →
          calls[n]? = some call → call.key = key → (∀ m ∈ back, ¬ Writes calls key m) →
          (Folder.medium.get key last.folder).1 = .ok (some call.bytes))) := by
  intro last
  have hcounted := counted_run haccepted schedule
  refine ⟨?_, hcounted.result, ?_⟩
  · intro key
    rcases (sound_run haccepted schedule).file key with hsame | ⟨call, hmem, hkey, hbytes⟩
    · exact .inl (Folder.medium_get_congr hsame)
    · subst hkey
      exact .inr ⟨call, hmem, rfl, Folder.medium_get_of_fileOf (haccepted call hmem).fileFits hbytes⟩
  · intro hcomplete
    refine ⟨?_, ?_⟩
    · intro n hn
      have htaken := hcounted.taken_eq n hn
      rw [hcomplete n hn] at htaken
      cases hphase : last.phase n with
      | ended result => exact ⟨result, rfl⟩
      | waiting | staged => simp [last, WritePhase.taken, hphase] at htaken
    · intro key
      refine ⟨⟨apart_of_ok haccepted, fun hapart n hn => ok_of_apart haccepted hcomplete hapart hn⟩,
        ?_⟩
      rintro hapart front n back call rfl hcall hkey hlast
      have hfits := (haccepted call (List.mem_of_getElem? hcall)).fileFits
      rw [hkey] at hfits
      exact Folder.medium_get_of_fileOf hfits
        (fileOf_of_last haccepted hcomplete hapart hcall hkey hlast)

/-- Two calls for a cart, one after the other, and one for a wish in between: all succeed. -/
theorem writing_outcome_apart :
    let calls : List WriteCall := [⟨"cart", [1]⟩, ⟨"cart", [2]⟩, ⟨"wish", [3]⟩]
    let schedule := [0, 2, 0, 1, 2, 1]
    let last := (start Table.empty).run calls schedule
    Accepted calls Table.empty ∧ Complete calls schedule ∧ Apart calls "cart" schedule ∧
      (∀ n, Writes calls "cart" n → last.phase n = .ended (.ok ())) ∧
      (Folder.medium.get "cart" last.folder).1 = .ok (some [2]) := by
  intro calls schedule last
  have haccepted : Accepted calls Table.empty := accepted_empty (by decide +kernel)
  have hcomplete : Complete calls schedule := by decide
  obtain ⟨-, hcart⟩ := (writing_outcome calls Table.empty schedule haccepted).2.2 hcomplete
  have hok : ∀ n, Writes calls "cart" n → last.phase n = .ended (.ok ()) := by
    intro n hn
    match n with
    | 0 => rfl
    | 1 => rfl
    | 2 => exact absurd (hn.key_eq rfl) (by decide)
    | n + 3 => exact absurd hn.lt (by simp [calls])
  have hapart := (hcart "cart").1.1 hok
  refine ⟨haccepted, hcomplete, hapart, hok, ?_⟩
  apply (hcart "cart").2 hapart [0, 2, 0, 1, 2] 1 [] ⟨"cart", [2]⟩ rfl rfl rfl
  exact fun _ h => absurd h List.not_mem_nil

/-- Two calls for a cart, both begun before either of them ends. The first one publishes the value
    of the second one, which then finds no temporary file. -/
theorem writing_collision :
    let calls : List WriteCall := [⟨"cart", [1]⟩, ⟨"cart", [2]⟩]
    let schedule := [0, 1, 0, 1]
    let last := (start Table.empty).run calls schedule
    Accepted calls Table.empty ∧ Complete calls schedule ∧
      last.phase 0 = .ended (.ok ()) ∧
      last.phase 1 = .ended (.error (.file .noSuchFolder)) ∧
      (Folder.medium.get "cart" last.folder).1 = .ok (some [2]) := by
  intro calls schedule last
  have haccepted : Accepted calls Table.empty := accepted_empty (by decide +kernel)
  have hcomplete : Complete calls schedule := by decide
  exact ⟨haccepted, hcomplete, rfl, rfl, rfl⟩

end Writing

end Bookshop
