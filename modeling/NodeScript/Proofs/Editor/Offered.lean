import NodeScript.Proofs.Editor.Searching
import NodeScript.Proofs.Search.Ranking
import NodeScript.Proofs.Workspace.Each

namespace NodeScript

def Session.Offers (c : Catalog) (s : Session) : Prop := ∀ t ∈ s.results, t ∈ c.templates

namespace Session

variable {c : Catalog} {s : Session}

theorem refresh_offers (recents : Option Recents) (s : Session) : (refresh c recents s).Offers c := by
  intro t member
  have found : t ∈ search c s.query s.filter recents := member
  exact mem_search found

theorem Offers.current {t : Template} (offers : s.Offers c) (current : s.current? = some t) :
    t ∈ c.templates :=
  offers t (List.mem_of_getElem? current)

theorem press_offers (key : SearchKey) (shift : Bool) (recents : Option Recents) (offers : s.Offers c) :
    (s.press key shift recents).2.1.Offers c := by
  cases key with
  | enter =>
      unfold press commit
      dsimp only
      split <;> exact offers
  | _ => exact offers

end Session

def Editor.Offers (c : Catalog) (_ : Script) (e : Editor) : Prop :=
  ∀ session, e.session? = some session → session.Offers c

theorem Editor.withSession_offers {c : Catalog} {session : Session} (offers : session.Offers c) (s : Script)
    (e : Editor) : (e.withSession session).Offers c s := by
  cases e <;>
  · rintro _ ⟨⟩
    exact offers

namespace Desk

variable {c : Catalog} {d : Desk}

def Offers (c : Catalog) (d : Desk) : Prop := d.editor.Offers c d.script

theorem openCommandSurface_offers (x y : Json) (query : Text) (d : Desk) :
    (d.openCommandSurface c x y query).2.Offers c := by
  have started : (Session.start c (some d.recents) query).Offers c := Session.refresh_offers _ _
  unfold openCommandSurface
  dsimp only
  split
  · rintro _ ⟨⟩
    exact started
  · exact Editor.withSession_offers started d.script d.editor

theorem after_offers (step : EditorStep) (searchless : step.isSearch = false)
    (offers : d.Offers c) : (d.after c step).Offers c := by
  cases touches : step.touchesSearch with
  | false => exact fun session there => offers session ((after_search touches d).same session there)
  | true =>
      cases step with
      | reopen =>
          intro session there
          cases (refresh_search _).same session there
      | openCommandSurface x y query => exact openCommandSurface_offers x y query d
      | searchOn session recents => cases searchless
      | _ => cases touches

end Desk

theorem offers_steady (c : Catalog) : Steady c (Editor.Offers c) where
  start := by
    intro s recents ids session there
    cases (Desk.refresh_search _).same session there
  after := fun step _ => Desk.after_offers step
  extended := fun _ _ _ _ _ _ offers => offers

end NodeScript
