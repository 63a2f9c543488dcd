import DoubleEntry.Proofs.Program.Runs

/-!
# Programs side by side

Two programs go side by side as long as they ask the same questions, for all answers that are alike.
The surroundings of the two may differ, and so may what they answer; `SideBySide.exec` brings both
sides together: if the two surroundings answer alike and stay related, both runs come to the places
where the programs part.
-/

namespace DoubleEntry.Program

variable {Q : Type} {A : Q → Type} {α β α' β' S T : Type}

/-- Two programs ask the same questions, of some kind, as long as the answers are alike, until they
have come to such places. -/
inductive SideBySide (asked : Q → Prop) (alike : (q : Q) → A q → A q → Prop)
    (place : Program A α → Program A β → Prop) : Program A α → Program A β → Prop
  | place {p : Program A α} {p' : Program A β} (there : place p p') :
      SideBySide asked alike place p p'
  | ask {q : Q} (kind : asked q) {next : A q → Program A α} {next' : A q → Program A β}
      (later : ∀ a a', alike q a a' → SideBySide asked alike place (next a) (next' a')) :
      SideBySide asked alike place (.ask q next) (.ask q next')

/-- Both programs are at their ends, with values that are related. -/
def BothDone (R : α → β → Prop) (p : Program A α) (p' : Program A β) : Prop :=
  ∃ a b, p = .done a ∧ p' = .done b ∧ R a b

namespace SideBySide

variable {asked : Q → Prop} {alike : (q : Q) → A q → A q → Prop}
  {place : Program A α → Program A β → Prop} {place' : Program A α' → Program A β' → Prop}
  {p : Program A α} {p' : Program A β} {f : α → Program A α'} {g : β → Program A β'}
  {R : α → β → Prop}

theorem done {a : α} {b : β} (related : R a b) :
    SideBySide asked alike (BothDone R) (.done a) (.done b) :=
  .place ⟨a, b, rfl, rfl, related⟩

/-- Side by side to some places, and from there on. -/
theorem bind_places (first : SideBySide asked alike place p p')
    (later : ∀ p p', place p p' → SideBySide asked alike place' (p >>= f) (p' >>= g)) :
    SideBySide asked alike place' (p >>= f) (p' >>= g) := by
  induction first with
  | place there => exact later _ _ there
  | ask kind _ ih => exact .ask kind ih

theorem bind (first : SideBySide asked alike (BothDone R) p p')
    (later : ∀ a b, R a b → SideBySide asked alike place' (f a) (g b)) :
    SideBySide asked alike place' (p >>= f) (p' >>= g) := by
  refine first.bind_places ?_
  rintro _ _ ⟨a, b, rfl, rfl, related⟩
  exact later a b related

/-- Where the surroundings of both sides answer alike and stay related, both runs come to the places
where the programs part. -/
theorem exec {handler : Handler A S} {handler' : Handler A T} {Related : S → T → Prop}
    (answers : ∀ q s t, asked q → Related s t →
      alike q (handler q s).1 (handler' q t).1 ∧ Related (handler q s).2 (handler' q t).2)
    (both : SideBySide asked alike place p p') {s : S} {t : T} (start : Related s t) :
    ∃ q q' s' t', place q q' ∧ Related s' t' ∧ p.exec handler s = q.exec handler s' ∧
      p'.exec handler' t = q'.exec handler' t' := by
  induction both generalizing s t with
  | place there => exact ⟨_, _, s, t, there, start, rfl, rfl⟩
  | ask kind _ ih =>
    obtain ⟨given, kept⟩ := answers _ s t kind start
    exact ih _ _ given kept

/-- A program goes side by side with itself where it is answered the same. -/
theorem of_asksOnly {kind : Q → Prop} {p : Program A α} (only : p.AsksOnly kind)
    (same : ∀ q, kind q → asked q ∧ ∀ a a', alike q a a' → a' = a) :
    SideBySide asked alike (BothDone Eq) p p := by
  induction p with
  | done a => exact .done rfl
  | ask q next ih =>
    obtain ⟨such, given⟩ := same q only.1
    refine .ask such fun a a' answered => ?_
    obtain rfl := given a a' answered
    exact ih a' (only.2 a')

end SideBySide

end DoubleEntry.Program
