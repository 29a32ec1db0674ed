import DocSchema.Json.Reader
import DocSchema.Proofs.Chain
import DocSchema.Proofs.Json.Part

/-!
# Documents that are read

No object of a document that is read from a text has one key twice (`distinct_of_read`), because a
member whose key is known takes the place of the one before. Every step of the reader keeps this of
the open arrays and objects and of a value that is complete (`sound_step`).
-/

namespace DocSchema

/-- A member that was put is the only one of its key, and the others were there. -/
theorem Members.mem_put {key : String} {value : Json} {members : Members} {m : String × Json}
    (h : m ∈ put key value members) : m = (key, value) ∨ m ∈ members := by
  induction members with
  | nil => exact .inl (List.mem_singleton.1 h)
  | cons head rest ih =>
    obtain ⟨k, v⟩ := head
    rw [put] at h
    split at h
    · next hk =>
      subst hk
      rcases List.mem_cons.1 h with rfl | hrest
      · exact .inl rfl
      · exact .inr (List.mem_cons_of_mem _ hrest)
    · rcases List.mem_cons.1 h with rfl | hrest
      · exact .inr List.mem_cons_self
      · rcases ih hrest with heq | hold
        · exact .inl heq
        · exact .inr (List.mem_cons_of_mem _ hold)

/-- Putting a distinct member keeps an object distinct. -/
theorem Json.distinct_put {key : String} {value : Json} {members : Members}
    (hmembers : (object members).Distinct) (hvalue : value.Distinct) :
    (object (members.put key value)).Distinct := by
  obtain ⟨hkeys, hvalues⟩ := distinct_object_iff.1 hmembers
  refine distinct_object_iff.2 ⟨Members.nodup_keys_put hkeys key value, fun m hm => ?_⟩
  rcases Members.mem_put hm with rfl | hm
  · exact hvalue
  · exact hvalues m hm

namespace Reader

/-- No object in an open array or object has one key twice. -/
def Frame.Sound : Frame → Prop
  | .list items => ∀ a ∈ items, a.Distinct
  | .object members _ => (Json.object members).Distinct

/-- No object in a value that is complete has one key twice. -/
def Mode.Sound : Mode → Prop
  | .blanks document => document.Distinct
  | .word _ held => held.Distinct
  | _ => True

/-- No object that has been read so far has one key twice. -/
structure State.Sound (s : State) : Prop where
  /-- Those in open arrays and objects have not. -/
  frames : ∀ f ∈ s.frames, f.Sound
  /-- Those in a value that is complete have not. -/
  mode : s.mode.Sound

/-- Handing on a complete value is sound. -/
theorem sound_give {frames : List Frame} (hframes : ∀ f ∈ frames, f.Sound) {value : Json}
    (hvalue : value.Distinct) : (State.give frames value).Sound := by
  cases frames with
  | nil => exact ⟨nofun, hvalue⟩
  | cons frame outer =>
    rw [List.forall_mem_cons] at hframes
    obtain ⟨hframe, houter⟩ := hframes
    cases frame with
    | list items =>
      exact ⟨List.forall_mem_cons.2 ⟨List.forall_mem_cons.2 ⟨hvalue, hframe⟩, houter⟩, trivial⟩
    | object members key =>
      exact ⟨List.forall_mem_cons.2 ⟨Json.distinct_put hframe hvalue, houter⟩, trivial⟩

/-- Ending the innermost array or object is sound. -/
theorem sound_close {frames : List Frame} (hframes : ∀ f ∈ frames, f.Sound) :
    (State.close frames).Sound := by
  cases frames with
  | nil => exact ⟨nofun, trivial⟩
  | cons frame outer =>
    rw [List.forall_mem_cons] at hframes
    obtain ⟨hframe, houter⟩ := hframes
    cases frame with
    | list items =>
      refine sound_give houter (Json.distinct_array_iff.2 fun a ha => ?_)
      exact hframe a (List.mem_reverse.1 ha)
    | object members key => exact sound_give houter hframe

/-- Noting a key is sound. -/
theorem sound_withKey {frames : List Frame} (hframes : ∀ f ∈ frames, f.Sound) (key : String) :
    ∀ f ∈ State.withKey frames key, f.Sound := by
  unfold State.withKey
  split
  · rw [List.forall_mem_cons] at hframes ⊢
    exact hframes
  · exact hframes

/-- Opening an array or an object is sound. -/
theorem sound_descend {frames : List Frame} (hframes : ∀ f ∈ frames, f.Sound) {frame : Frame}
    (hframe : frame.Sound) {mode : Mode} (hmode : mode.Sound) {s : State}
    (h : State.descend frames frame mode = .ok s) : s.Sound := by
  unfold State.descend at h
  split at h
  · obtain rfl := Except.ok.inj h
    exact ⟨List.forall_mem_cons.2 ⟨hframe, hframes⟩, hmode⟩
  · simp at h

/-- Beginning a value is sound. -/
theorem sound_begin {frames : List Frame} (hframes : ∀ f ∈ frames, f.Sound) {c : Char} {s : State}
    (h : State.begin frames c = .ok s) : s.Sound := by
  have hword : ∀ rest value, value.Distinct → State.Sound ⟨frames, .word rest value⟩ :=
    fun rest value hvalue => ⟨hframes, hvalue⟩
  unfold State.begin at h
  split at h
  · exact Except.ok.inj h ▸ hword _ _ trivial
  split at h
  · exact Except.ok.inj h ▸ hword _ _ trivial
  split at h
  · exact Except.ok.inj h ▸ hword _ _ trivial
  split at h
  · exact Except.ok.inj h ▸ ⟨hframes, trivial⟩
  split at h
  · have hlist : Frame.Sound (.list []) := nofun
    refine sound_descend hframes hlist ?_ h
    trivial
  split at h
  · have hobject : Frame.Sound (.object [] "") :=
      Json.distinct_object_iff.2 ⟨List.nodup_nil, nofun⟩
    refine sound_descend hframes hobject ?_ h
    trivial
  split at h
  · exact Except.ok.inj h ▸ ⟨hframes, trivial⟩
  split at h
  · exact Except.ok.inj h ▸ ⟨hframes, trivial⟩
  · simp at h

/-- Reading a character after a complete value is sound. -/
theorem sound_afterValue {s t : State} (hs : s.Sound) {c : Char} (h : s.afterValue c = .ok t) :
    t.Sound := by
  unfold State.afterValue at h
  split at h
  · exact Except.ok.inj h ▸ hs
  split at h
  · split at h
    · exact Except.ok.inj h ▸ ⟨hs.frames, trivial⟩
    split at h
    · exact Except.ok.inj h ▸ sound_close hs.frames
    · simp at h
  · split at h
    · exact Except.ok.inj h ▸ ⟨hs.frames, trivial⟩
    split at h
    · exact Except.ok.inj h ▸ sound_close hs.frames
    · simp at h
  · simp at h

/-- Reading a character is sound. -/
theorem sound_step {s t : State} (hs : s.Sound) {c : Char} (h : s.step c = .ok t) : t.Sound := by
  obtain ⟨frames, mode⟩ := s
  have hframes : ∀ f ∈ frames, f.Sound := hs.frames
  have hstay : ∀ {next : Mode}, next.Sound → State.Sound ⟨frames, next⟩ :=
    fun hnext => ⟨hframes, hnext⟩
  unfold State.step at h
  cases mode with
  | value =>
    dsimp only at h
    split at h
    · exact Except.ok.inj h ▸ hs
    · exact sound_begin hframes h
  | firstItem =>
    dsimp only at h
    split at h
    · exact Except.ok.inj h ▸ hs
    split at h
    · exact Except.ok.inj h ▸ sound_close hframes
    · exact sound_begin hframes h
  | nextItem =>
    dsimp only at h
    split at h
    · exact Except.ok.inj h ▸ hs
    split at h
    · simp at h
    · exact sound_begin hframes h
  | firstKey =>
    dsimp only at h
    split at h
    · exact Except.ok.inj h ▸ hs
    split at h
    · exact Except.ok.inj h ▸ hstay trivial
    split at h
    · exact Except.ok.inj h ▸ sound_close hframes
    · simp at h
  | nextKey =>
    dsimp only at h
    split at h
    · exact Except.ok.inj h ▸ hs
    split at h
    · exact Except.ok.inj h ▸ hstay trivial
    split at h <;> simp at h
  | colon =>
    dsimp only at h
    split at h
    · exact Except.ok.inj h ▸ hs
    split at h
    · exact Except.ok.inj h ▸ hstay trivial
    · simp at h
  | afterItem | afterMember | blanks document => exact sound_afterValue hs h
  | word rest held =>
    have hheld : held.Distinct := hs.mode
    have hgive : (State.give frames held).Sound := sound_give hframes hheld
    dsimp only at h
    split at h
    · exact sound_afterValue hgive h
    · split at h
      · exact Except.ok.inj h ▸ hgive
      · simp at h
    · split at h
      · exact Except.ok.inj h ▸ hstay hheld
      · simp at h
  | string text =>
    dsimp only at h
    split at h
    · exact Except.ok.inj h ▸ hstay trivial
    · exact Except.ok.inj h ▸ sound_give hframes trivial
    · simp at h
  | keyString text =>
    dsimp only at h
    split at h
    · exact Except.ok.inj h ▸ hstay trivial
    · exact Except.ok.inj h ▸ ⟨sound_withKey hframes _, trivial⟩
    · simp at h
  | number n =>
    dsimp only at h
    split at h
    · exact Except.ok.inj h ▸ hstay trivial
    · simp at h
    · simp at h
    · -- The character that ends a number is read as one after its value.
      split at h
      · next number _ =>
        have hnumber : (Json.number number).Distinct := trivial
        exact sound_afterValue (sound_give hframes hnumber) h
      · simp at h

/-- A document that is complete at the end of the text is sound. -/
theorem distinct_of_finish {s : State} (hs : s.Sound) {document : Json}
    (h : s.finish = .ok document) : document.Distinct := by
  unfold State.finish at h
  split at h
  · next result hmode =>
    have hresult : (Mode.blanks result).Sound := hmode ▸ hs.mode
    exact Except.ok.inj h ▸ hresult
  · split at h
    · simp at h
    · split at h
      · simp at h
      · exact Except.ok.inj h ▸ trivial
      · simp at h
  · simp at h

/-- Reading characters from a sound state gives a sound document. -/
theorem distinct_of_readFrom {s : State} (hs : s.Sound) {offset : Nat} {characters : List Char}
    {document : Json} (h : readFrom s offset characters = .ok document) : document.Distinct := by
  induction characters generalizing s offset with
  | nil =>
    rw [readFrom] at h
    exact distinct_of_finish hs (Chain.mapError_eq_ok_iff.1 h)
  | cons c rest ih =>
    rw [readFrom] at h
    split at h
    · next t ht => exact ih (sound_step hs ht) h
    · simp at h

end Reader

/-- No object of a document that is read has one key twice. -/
theorem Json.distinct_of_read {text : String} {document : Json}
    (h : Json.read text = .ok document) : document.Distinct := by
  have hstart : Reader.State.start.Sound := ⟨nofun, trivial⟩
  unfold Json.read at h
  exact Reader.distinct_of_readFrom hstart (Chain.mapError_eq_ok_iff.1 h)

end DocSchema
