import SurveyIntake.Proofs.Table
import SurveyIntake.Registry

/-!
# SurveyIntake.Proofs.Proper

Values that are read are proper: their objects have each key once, in ascending order.

* `Json.Proper.of_find?`       — the members of a proper object are proper.
* `Reader.memberLoop_keeps`, `Reader.elementLoop_keeps` — what one part of a text keeps, all of them keep.
* `Json.proper_of_parse`       — the value of a text is proper.
* `Submission.proper_of_ofBody` — so are the answers in the body of a request that is.
-/

namespace SurveyIntake
namespace Json

theorem itemsProper_iff {items : List Json} : ItemsProper items ↔ ∀ x ∈ items, x.Proper := by
  induction items with
  | nil => simp [ItemsProper]
  | cons x items ih => simp [ItemsProper, ih]

theorem membersProper_iff {members : List (String × Json)} :
    MembersProper members ↔ ∀ e ∈ members, e.2.Proper := by
  induction members with
  | nil => simp [MembersProper]
  | cons e members ih => simp [MembersProper, ih]

theorem Proper.of_find? {members : List (String × Json)} {key : String} {value : Json}
    (h : (Json.object members).Proper) (hv : Assoc.find? key members = some value) : value.Proper :=
  membersProper_iff.1 h.2 _ (Assoc.mem_of_find? hv)

theorem MembersProper.insert {members : List (String × Json)} {key : String} {value : Json}
    (h : MembersProper members) (hv : value.Proper) :
    MembersProper (Assoc.insert key value members) := by
  induction members with
  | nil => exact ⟨hv, trivial⟩
  | cons e members ih =>
    obtain ⟨l, w⟩ := e
    simp only [Assoc.insert]
    split
    · exact ⟨hv, h.2⟩
    · split
      · exact ⟨hv, h⟩
      · exact ⟨h.1, ih h.2⟩

namespace Reader

variable {σ α : Type}

/-- What the reader of one member keeps holds of what is made of all of them. -/
theorem memberLoop_keeps {I : σ → Prop} {member : σ → String → List Char → Read σ}
    (step : ∀ a key s b rest, I a → member a key s = .ok (b, rest) → I b) {fuel : Nat} {first : Bool}
    {a b : σ} {s rest : List Char} (ha : I a) (h : memberLoop member a fuel first s = .ok (b, rest)) :
    I b := by
  induction fuel generalizing a first s with
  | zero => cases h
  | succ fuel ih =>
    simp only [memberLoop] at h
    split at h
    · cases h
    · cases h
      exact ha
    · split at h
      · cases h
      · rename_i hmember
        exact ih (step _ _ _ _ _ ha hmember) h

theorem elementLoop_keeps {I : α → Prop} {item : List Char → Read α}
    (each : ∀ s x rest, item s = .ok (x, rest) → I x) {fuel : Nat} {first : Bool} {done xs : List α}
    {s rest : List Char} (hdone : ∀ x ∈ done, I x)
    (h : elementLoop item done fuel first s = .ok (xs, rest)) : ∀ x ∈ xs, I x := by
  induction fuel generalizing done first s with
  | zero => cases h
  | succ fuel ih =>
    simp only [elementLoop] at h
    split at h
    · cases h
    · split at h
      · cases h
      · cases h
        intro x hx
        exact hdone x (List.mem_reverse.1 hx)
    · split at h
      · cases h
      · rename_i x _ hitem
        refine ih (fun y hy => ?_) h
        rcases List.mem_cons.1 hy with rfl | hy
        · exact each _ _ _ hitem
        · exact hdone y hy

theorem proper_of_scalar {s rest : List Char} {v : Json} (h : scalar s = .ok (v, rest)) :
    v.Proper := by
  simp only [scalar] at h
  split at h
  · cases h
  · split at h
    · cases h
    · cases h
      trivial
  · split at h
    · cases h
    · cases h
      trivial
  · split at h
    · cases h
    · cases h
      trivial
  · split at h
    · cases h
    · cases h
      trivial
  · split at h
    · split at h
      · cases h
      · cases h
        trivial
    · cases h

theorem exists_of_memberValue {item : List Char → Read α} {s rest : List Char} {x : α}
    (h : memberValue item s = .ok (x, rest)) : ∃ t, item t = .ok (x, rest) := by
  unfold memberValue at h
  split at h
  · cases h
  · exact ⟨_, h⟩

/-- A member that is read makes a proper object a proper one. -/
theorem proper_of_addMember {item : List Char → Read Json} {before after : List (String × Json)}
    {key : String} {s rest : List Char} (hitem : ∀ t v rest, item t = .ok (v, rest) → v.Proper)
    (hb : (Json.object before).Proper) (h : addMember item before key s = .ok (after, rest)) :
    (Json.object after).Proper := by
  unfold addMember at h
  split at h
  · cases h
  · rename_i x _ hx
    cases h
    obtain ⟨t, ht⟩ := exists_of_memberValue hx
    exact ⟨hb.1.insert, hb.2.insert (hitem t x _ ht)⟩

theorem proper_of_value {depth : Nat} {s rest : List Char} {v : Json}
    (h : value depth s = .ok (v, rest)) : v.Proper := by
  induction depth generalizing s rest v with
  | zero =>
    simp only [value] at h
    split at h
    · cases h
    · cases h
    · exact proper_of_scalar h
  | succ depth ih =>
    simp only [value] at h
    split at h
    · split at h
      · cases h
      · rename_i helements
        cases h
        exact itemsProper_iff.2
          (elementLoop_keeps (fun _ _ _ hx => ih hx) (by simp) helements)
    · split at h
      · cases h
      · rename_i hmembers
        cases h
        refine memberLoop_keeps (I := fun ms => (Json.object ms).Proper) ?_ ⟨.nil, trivial⟩ hmembers
        exact fun _ _ _ _ _ hb ha => proper_of_addMember (fun _ _ _ hv => ih hv) hb ha
    · exact proper_of_scalar h

end Reader

theorem proper_of_parse {text : String} {v : Json} (h : parse text = .ok v) : v.Proper := by
  unfold parse Reader.document at h
  split at h
  · cases h
  · rename_i hvalue
    split at h
    · cases h
      exact Reader.proper_of_value hvalue
    · cases h

end Json

namespace Submission

theorem bodyAnswers_eq_ok {members : List (String × Json)} {answers : Json}
    (h : bodyAnswers members = .ok answers) :
    ∃ key, Assoc.find? key members = some answers := by
  unfold bodyAnswers at h
  split at h
  · rename_i v hv
    cases h
    rcases Option.or_eq_some_iff.1 hv with hv | ⟨_, hv⟩
    · exact ⟨_, hv⟩
    · exact ⟨_, hv⟩
  · cases h

theorem proper_of_ofBody {body : Json} {x : Submission} (hb : body.Proper)
    (h : ofBody body = .ok x) : x.answers.Proper := by
  unfold ofBody at h
  split at h
  · rename_i members
    dsimp only at h
    split at h
    · rename_i hanswers
      cases h
      obtain ⟨key, hkey⟩ := bodyAnswers_eq_ok hanswers
      exact hb.of_find? hkey
    · cases h
    · cases h
    · cases h
  · cases h

end Submission
end SurveyIntake
