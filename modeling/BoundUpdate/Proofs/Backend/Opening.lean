import BoundUpdate.Proofs.Backend.Lending

namespace BoundUpdate
namespace Connector

/-!
# What a driver is given

A database of some types is opened with one text: the address of its entry if
there is one, and else the text that the parts are written into.  Everything that
connecting makes observable is that the driver opens a connection with this text,
and what it takes to make the connection ready.
-/

open Act

variable {e : DatabaseEntry} {opens : Connection} {before : Activity} {timeout : Int}
  {options : Value}

/-! ## Opening -/

/-- Behind opening a connection nothing becomes observable but setting it up. -/
theorem exists_connectWith_events (c : Connector) (driver : String) (before : Activity) :
    ∃ setup, SetsUp setup ∧ (c.connectWith driver before).2.events =
      (c.openWith driver before).2.events ++ setup := by
  obtain ⟨c', outcome, after, hconnect, htried⟩ := c.exists_tried driver before
  rw [hconnect]
  cases htried with
  | unopened hopen hevents => exact ⟨[], .inl rfl, by rw [hopen, List.append_nil]; exact hevents⟩
  | @unready connection _ opened _ _ _ hopen hgreet hevents =>
    obtain ⟨setup, hsetup, hafter⟩ := c'.readies_greet connection opened
    rw [hgreet] at hafter
    exact ⟨setup, hsetup, by rw [hopen]; exact hevents.trans hafter⟩
  | @ready connection opened _ _ hopen hgreet =>
    obtain ⟨setup, hsetup, hafter⟩ := c'.readies_greet connection opened
    rw [hgreet] at hafter
    exact ⟨setup, hsetup, by rw [hopen]; exact hafter⟩

theorem opened_events (c : Connector) (driver : String) (positional : List Value)
    (named : List (String × Value)) (before : Activity) :
    (c.opened driver positional named before).2.events =
      before.events ++ [.connect driver positional named] := by
  rw [opened, bind_run_ok (observe_run _ _)]
  cases c.opens.connectFailure <;> rfl

theorem openText_of_address {c : Connector} (h : c.entry.dsn.truth = .ok true) (driver : String) :
    c.openText driver = c.opened driver [c.entry.dsn] [] := by
  unfold openText
  rw [h]
  rfl

theorem openText_of_parts {c : Connector} (h : c.entry.dsn.truth = .ok false) {text : String}
    (htext : c.partsText = .ok text) (driver : String) :
    c.openText driver = c.opened driver [.text text] [] := by
  unfold openText
  rw [h, htext]
  rfl

/-! ## Connecting -/

/-- The types of databases that are opened with a text. -/
def textTypes : List String := ["postgres", "postgresql"]

/-- Whether an entry is one of a database that is opened with a text, and has options that tell the
autocommit mode. -/
structure TakesText (e : DatabaseEntry) (options : Value) : Prop where
  type : ∃ s, e.type = .text s ∧ Text.lowerString s ∈ textTypes
  port : ∃ told, e.port.truth = .ok told
  chosen : e.options.orElse (.dict []) = .ok options
  mode : ∃ on, autocommitOf options = .ok on

/-- Whether settings can be told that give the seconds to wait, and the driver can be loaded. -/
def Ready (before : Activity) (timeout : Int) : Prop :=
  ∃ held loaded, Settings.current before = (.ok held, loaded) ∧
    held.settings.connectTimeout = .int timeout ∧
    (loaded.surroundings.drivers.lookup "psycopg2").isSome = true

/-- Whether connecting to the database of an entry hands the driver a text, once, and makes nothing
else observable but setting up the connection. -/
def HandsOver (opens : Connection) (e : DatabaseEntry) (before : Activity) (text : String) : Prop :=
  ∃ setup, SetsUp setup ∧ ((make e opens >>= connect) before).2.events =
    before.events ++ .connect "psycopg2" [.text text] [] :: setup

/-- The autocommit mode is on unless an option turns it off. -/
theorem autocommitOf_of_absent {entries : Value.Entries}
    (hentries : options.entries? = some entries) (habsent : entries.get? "autocommit" = none) :
    autocommitOf options = .ok true := by
  have hoption : option options "autocommit" (.bool true) = .ok (.bool true) := by
    rw [option, hentries]
    dsimp only
    rw [Value.Entries.getD, habsent]
    rfl
  rw [autocommitOf, hoption]
  rfl

theorem connect_eq {c : Connector} {type : String} (htype : c.type = .text type)
    (hmem : type ∈ textTypes) (hport : ∃ told, c.entry.port.truth = .ok told)
    (hdriver : (before.surroundings.drivers.lookup "psycopg2").isSome = true) :
    c.connect before = c.connectWith "psycopg2" before ∧
      c.openWith "psycopg2" = c.openText "psycopg2" := by
  obtain ⟨told, hport⟩ := hport
  have hknown : c.driver? = some "psycopg2" ∧
      c.openWith "psycopg2" = c.openText "psycopg2" := by
    rw [driver?, openWith, htype]
    rcases List.mem_cons.1 hmem with rfl | hmem
    · exact ⟨rfl, rfl⟩
    · rw [List.mem_singleton.1 hmem]
      exact ⟨rfl, rfl⟩
  refine ⟨?_, hknown.2⟩
  unfold connect
  rw [hknown.1]
  dsimp only
  rw [bind_run_ok (surroundings_run _), if_pos hdriver, hport]

/-- A connector is made for the entry, with the seconds to wait that the settings give. -/
theorem exists_make (h : TakesText e options) {held : HeldSettings} {loaded : Activity}
    (hsettings : Settings.current before = (.ok held, loaded)) (opens : Connection) :
    ∃ c type, make e opens before = (.ok c, loaded) ∧ c.entry = e ∧ c.options = options ∧
      c.timeout = held.settings.connectTimeout ∧ c.type = .text type ∧ type ∈ textTypes := by
  obtain ⟨⟨s, hs, hmem⟩, -, hoptions, on, hmode⟩ := h
  have hne : s ≠ "" := by
    rintro rfl
    revert hmem
    decide
  have htypeOf : typeOf e = .ok (.text (Text.lowerString s)) := by
    have hfull : (!s.isEmpty) = true := by simpa using hne
    rw [typeOf, hs, Value.truth_text, hfull]
    rfl
  have hrun : make e opens before =
      (.ok { entry := e, type := .text (Text.lowerString s), options, autocommit := on
             timeout := held.settings.connectTimeout, opens }, loaded) := by
    unfold make
    rw [htypeOf, bind_run_ok (ofExcept_run _ _), hoptions, bind_run_ok (ofExcept_run _ _), hmode,
      bind_run_ok (ofExcept_run _ _), bind_run_ok hsettings]
    rfl
  exact ⟨_, _, hrun, rfl, rfl, rfl, rfl, hmem⟩

/-- What the driver opens a connection with is handed over. -/
theorem handsOver_of_openText (h : TakesText e options) (hready : Ready before timeout)
    {text : String} (htext : ∀ c : Connector, c.entry = e → c.options = options →
      c.timeout = .int timeout → c.openText "psycopg2" = c.opened "psycopg2" [.text text] []) :
    HandsOver opens e before text := by
  obtain ⟨held, loaded, hsettings, htimeout, hdriver⟩ := hready
  obtain ⟨c, type, hmake, hentry, hoptions, hwait, htype, hmem⟩ := exists_make h hsettings opens
  obtain ⟨hconnect, hopen⟩ := connect_eq htype hmem (hentry ▸ h.port) hdriver
  obtain ⟨setup, hsetup, hevents⟩ := c.exists_connectWith_events "psycopg2" loaded
  refine ⟨setup, hsetup, ?_⟩
  rw [bind_run_ok hmake, hconnect, hevents, hopen,
    htext c hentry hoptions (hwait.trans htimeout), opened_events,
    (keepsEvents_make e opens).events_eq hmake, List.append_assoc]
  rfl

/-- An address is handed over as it is, whatever the options and the seconds to wait are. -/
theorem handsOver_of_address (h : TakesText e options) (hready : Ready before timeout) {s : String}
    (hdsn : e.dsn = .text s) (hne : s ≠ "") : HandsOver opens e before s := by
  refine handsOver_of_openText h hready fun c hentry _ _ => ?_
  have htruth : c.entry.dsn.truth = .ok true := by
    rw [hentry, hdsn, Value.truth_text]
    simpa using hne
  rw [openText_of_address htruth, hentry, hdsn]

end Connector
end BoundUpdate
