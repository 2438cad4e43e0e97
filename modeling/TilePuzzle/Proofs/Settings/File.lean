import TilePuzzle.Proofs.Toml.Document
import TilePuzzle.Proofs.Toml.Range
import TilePuzzle.Settings.File

namespace TilePuzzle.Settings

open Toml

variable {α : Type} {s : Settings} {fields : Fields} {es : Entries} {v : Value} {secs : UInt64}
variable {ss : List Statement} {file : String}

def Tellable (secs : UInt64) : Prop :=
  secs.toNat ≤ 9223372036854775807

instance (secs : UInt64) : Decidable (Tellable secs) :=
  inferInstanceAs (Decidable (_ ≤ _))

structure Channel.Writable (channel : Channel) : Prop where
  connect : Tellable channel.connectTimeoutSecs
  idle : ∀ secs ∈ channel.idleTimeoutSecs, Tellable secs

structure Writable (s : Settings) : Prop where
  client : Tellable s.client.timeoutSecs
  channel : ∀ channel ∈ s.channel, channel.Writable

def Site.entries (site : Site) : Entries :=
  [("base_url", .text site.baseUrl), ("start_path", .text site.startPath),
    ("submit_path", .text site.submitPath), ("display_name", .text site.displayName),
    ("tile_class", .text site.tileClass), ("token_attribute", .text site.tokenAttribute)]

def Client.entries (client : Client) : Entries :=
  [("timeout_secs", .integer client.timeoutSecs.toNat), ("user_agent", .text client.userAgent)]

def Channel.entries (channel : Channel) : Entries :=
  (channel.url.toList.map fun url => ("url", .text url)) ++
    (channel.urlVariable.toList.map fun name => ("url_env", .text name)) ++
    [("connect_timeout_secs", .integer channel.connectTimeoutSecs.toNat)] ++
    (channel.idleTimeoutSecs.toList.map fun secs => ("idle_timeout_secs", .integer secs.toNat))

def sections (s : Settings) : List (String × Entries) :=
  [("challenge", s.site.entries), ("http", s.client.entries)] ++
    (s.channel.toList.map fun channel => ("channel", channel.entries))

def Writes (cs? : Option (List Char)) (ss : List Statement) : Prop :=
  ∃ cs, cs? = some cs ∧ Spells cs ss

theorem spells_textLine {name : String} (hn : IsBare name) (text : String) :
    Spells (textLine name text) [.entry [name] (.text text)] :=
  spells_entry hn (denotes_text text)

theorem writes_secondsLine? {name : String} (hn : IsBare name) (h : Tellable secs) :
    Writes (secondsLine? name secs) [.entry [name] (.integer secs.toNat)] :=
  ⟨_, if_pos h, spells_entry hn (denotes_integer h)⟩

theorem writes_optional {write : α → Option (List Char)} {f : α → List Statement} {o : Option α}
    (h : ∀ a ∈ o, Writes (write a) (f a)) :
    Writes (writeOptional? write o) (o.toList.flatMap f) := by
  cases o with
  | none => exact ⟨[], rfl, spells_nil⟩
  | some a => simpa [writeOptional?] using h a rfl

theorem spells_writeSite (site : Site) :
    Spells (writeSite site) (sectionStatements ("challenge", site.entries)) := by
  have header : Spells "[challenge]\n".toList [.header ["challenge"]] :=
    spells_header (by decide : IsBare "challenge")
  exact (((((header.append (spells_textLine (by decide) _)).append
    (spells_textLine (by decide) _)).append (spells_textLine (by decide) _)).append
    (spells_textLine (by decide) _)).append (spells_textLine (by decide) _)).append
    (spells_textLine (by decide) _)

theorem writes_writeClient? {client : Client} (h : Tellable client.timeoutSecs) :
    Writes (writeClient? client) (sectionStatements ("http", client.entries)) := by
  have header : Spells "[http]\n".toList [.header ["http"]] :=
    spells_header (by decide : IsBare "http")
  obtain ⟨timeout, ht, hs⟩ := writes_secondsLine? (by decide : IsBare "timeout_secs") h
  refine ⟨_, by rw [writeClient?, ht]; rfl, ?_⟩
  exact (header.append hs).append (spells_textLine (by decide) _)

theorem writes_writeChannel? {channel : Channel} (h : channel.Writable) :
    Writes (writeChannel? channel) (sectionStatements ("channel", channel.entries)) := by
  have header : Spells "\n[channel]\n".toList ([] ++ [.header ["channel"]]) :=
    spells_blankLine.append (spells_header (by decide : IsBare "channel"))
  obtain ⟨url, hu, hus⟩ : Writes (writeOptional? (some ∘ textLine "url") channel.url) _ :=
    writes_optional fun url _ => ⟨_, rfl, spells_textLine (by decide) url⟩
  obtain ⟨name, hn, hns⟩ :
      Writes (writeOptional? (some ∘ textLine "url_env") channel.urlVariable) _ :=
    writes_optional fun name _ => ⟨_, rfl, spells_textLine (by decide) name⟩
  obtain ⟨connect, hc, hcs⟩ :=
    writes_secondsLine? (by decide : IsBare "connect_timeout_secs") h.connect
  obtain ⟨idle, hi, his⟩ :
      Writes (writeOptional? (secondsLine? "idle_timeout_secs") channel.idleTimeoutSecs) _ :=
    writes_optional fun secs hs => writes_secondsLine? (by decide) (h.idle secs hs)
  refine ⟨_, by rw [writeChannel?, hu, hn, hc, hi]; rfl, ?_⟩
  have hs := (((header.append hus).append hns).append hcs).append his
  simpa [sectionStatements, Channel.entries, List.map_eq_flatMap, List.flatMap_assoc] using hs

theorem writes_write? (h : s.Writable) :
    ∃ cs, s.write? = some (String.ofList cs) ∧ cs.head? = some '[' ∧
      Spells cs (s.sections.flatMap sectionStatements) := by
  obtain ⟨client, hc, hcs⟩ := writes_writeClient? h.client
  obtain ⟨channel, hn, hns⟩ : Writes (writeOptional? writeChannel? s.channel) _ :=
    writes_optional fun channel hs => writes_writeChannel? (h.channel channel hs)
  refine ⟨_, by rw [write?, hc, hn]; rfl, rfl, ?_⟩
  have hs := (((spells_writeSite s.site).append spells_blankLine).append hcs).append hns
  simpa [sections, List.flatMap_map] using hs

theorem ofFields?_site (site : Site) : Site.ofFields? (.named site.entries) = some site := by
  simp [Site.ofFields?, Site.entries, field?, Fields.get?, Entries.find?, text?]

theorem ofFields?_client (client : Client) :
    Client.ofFields? (.named client.entries) = some client := by
  simp [Client.ofFields?, Client.entries, field?, Fields.get?, Entries.find?, text?, seconds?]

theorem ofFields?_channel (channel : Channel) :
    Channel.ofFields? (.named channel.entries) = some channel := by
  obtain ⟨url, name, connect, idle⟩ := channel
  cases url <;> cases name <;> cases idle <;>
    simp [Channel.ofFields?, Channel.entries, field?, optionalField?, Fields.get?, Entries.find?,
      text?, seconds?]

theorem ofEntries?_sections (s : Settings) : ofEntries? (tables s.sections) = some s := by
  obtain ⟨site, client, channel⟩ := s
  cases channel <;>
    simp [ofEntries?, section?, sections, tables, Entries.find?, Fields.ofValue?, ofFields?_site,
      ofFields?_client, ofFields?_channel]

theorem keys_sections (s : Settings) : (tables s.sections).keys.Nodup := by
  obtain ⟨site, client, channel⟩ := s
  cases channel <;> simp [sections, tables, Entries.keys]

theorem keys_channel (channel : Channel) : channel.entries.keys.Nodup := by
  obtain ⟨url, name, connect, idle⟩ := channel
  cases url <;> cases name <;> cases idle <;> simp [Channel.entries, Entries.keys]

theorem keys_fields (s : Settings) : ∀ e ∈ s.sections, e.2.keys.Nodup := by
  have hs : s.site.entries.keys.Nodup := by simp [Site.entries, Entries.keys]
  have hc : s.client.entries.keys.Nodup := by simp [Client.entries, Entries.keys]
  simp [sections, hs, hc, keys_channel]

theorem ofFile_eq_ok_iff : ofFile file = .ok s ↔
    (∃ es, Toml.parse? file = some es ∧ ofEntries? es = some s) ∧ s.check = .ok () := by
  rw [← Option.bind_eq_some_iff]
  cases hp : (Toml.parse? file).bind ofEntries? with
  | none =>
      rw [ofFile, hp]
      exact iff_of_false nofun fun h => nomatch h.1
  | some s' =>
      rw [ofFile, hp, Option.some_inj]
      cases hc : s'.check with
      | error =>
          simp only [hc]
          refine iff_of_false nofun ?_
          rintro ⟨rfl, hs⟩
          cases hc.symm.trans hs
      | ok =>
          simp only [hc, Except.ok.injEq]
          exact ⟨fun h => ⟨h, h ▸ hc⟩, And.left⟩

theorem ofFile_of_write? (h : s.Writable) (hc : s.check = .ok ()) :
    ∃ text, s.write? = some text ∧ ofFile text = .ok s := by
  obtain ⟨cs, hw, hb, hs⟩ := writes_write? h
  have hm : cs.head? ≠ some (Char.ofNat 0xFEFF) := by
    rw [hb]
    decide
  have hp := parse?_sections hs hm (keys_sections s) (keys_fields s)
  exact ⟨_, hw, ofFile_eq_ok_iff.2 ⟨⟨_, hp, ofEntries?_sections s⟩, hc⟩⟩

def Fields.InRange : Fields → Prop
  | named es => es.InRange
  | listed vs => ∀ v ∈ vs, v.InRange

theorem inRange_ofValue? (h : v.InRange) (hf : Fields.ofValue? v = some fields) :
    fields.InRange := by
  cases h <;> cases hf
  next => exact List.forall_mem_nil _
  next h => exact h
  next h => exact h
  next h =>
    rintro _ hv
    obtain ⟨es, he, rfl⟩ := List.mem_map.1 hv
    exact .table _ (h es he)

theorem inRange_get? {place : Nat} {name : String} (h : fields.InRange)
    (hg : fields.get? place name = some v) : v.InRange := by
  cases fields with
  | named es => exact Entries.InRange.find? h hg
  | listed vs => exact h v (List.mem_of_getElem? hg)

theorem tellable_seconds? (h : v.InRange) (hs : seconds? v = some secs) : Tellable secs := by
  unfold seconds? at hs
  split at hs
  next n =>
    cases hs
    cases h with
    | integer _ hu => exact Nat.le_trans (Nat.mod_le _ _) (Int.ofNat_le.1 hu)
  next => cases hs

theorem tellable_field? {default : UInt64} {place : Nat} {name : String} (h : fields.InRange)
    (hd : Tellable default) (hf : field? seconds? default fields place name = some secs) :
    Tellable secs := by
  unfold field? at hf
  split at hf
  next hg => exact tellable_seconds? (inRange_get? h hg) hf
  next =>
    cases hf
    exact hd

theorem tellable_optionalField? {o : Option UInt64} {place : Nat} {name : String}
    (h : fields.InRange) (hf : optionalField? seconds? fields place name = some o) :
    ∀ secs ∈ o, Tellable secs := by
  unfold optionalField? at hf
  split at hf
  next hg =>
    obtain ⟨secs, hs, rfl⟩ := Option.map_eq_some_iff.1 hf
    rintro _ ⟨⟩
    exact tellable_seconds? (inRange_get? h hg) hs
  next =>
    cases hf
    nofun
  next => cases hf

theorem tellable_client {client : Client} (h : fields.InRange)
    (hf : Client.ofFields? fields = some client) : Tellable client.timeoutSecs := by
  simp only [Client.ofFields?, Option.bind_eq_bind, Option.bind_eq_some_iff] at hf
  obtain ⟨timeout, ht, agent, -, hf⟩ := hf
  cases hf
  exact tellable_field? h (by decide) ht

theorem writable_channel {channel : Channel} (h : fields.InRange)
    (hf : Channel.ofFields? fields = some channel) : channel.Writable := by
  simp only [Channel.ofFields?, Option.bind_eq_bind, Option.bind_eq_some_iff] at hf
  obtain ⟨url, -, name, -, connect, hc, idle, hi, hf⟩ := hf
  cases hf
  exact ⟨tellable_field? h (by decide) hc, tellable_optionalField? h hi⟩

theorem inRange_section? {name : String} {ofFields? : Fields → Option α} {o : Option α}
    (h : es.InRange) (hs : section? es name ofFields? = some o) :
    ∀ a ∈ o, ∃ fields : Fields, fields.InRange ∧ ofFields? fields = some a := by
  unfold section? at hs
  split at hs
  next =>
    cases hs
    nofun
  next hv =>
    obtain ⟨a, ha, rfl⟩ := Option.map_eq_some_iff.1 hs
    obtain ⟨fields, hf, ha⟩ := Option.bind_eq_some_iff.1 ha
    rintro _ ⟨⟩
    exact ⟨fields, inRange_ofValue? (h.find? hv) hf, ha⟩

theorem writable_ofEntries? (h : es.InRange) (ho : ofEntries? es = some s) : s.Writable := by
  simp only [ofEntries?, Option.bind_eq_bind, Option.bind_eq_some_iff] at ho
  obtain ⟨site, -, client, hc, channel, hn, ho⟩ := ho
  cases ho
  constructor
  · cases client with
    | none => exact (by decide : Tellable 30)
    | some client =>
        obtain ⟨fields, hf, hc⟩ := inRange_section? h hc client rfl
        exact tellable_client hf hc
  · intro channel he
    obtain ⟨fields, hf, hn⟩ := inRange_section? h hn channel he
    exact writable_channel hf hn

/-- What is read from a file can be written, and what is written is read as the same. -/
theorem ofFile_written (h : ofFile file = .ok s) :
    ∃ text, s.write? = some text ∧ ofFile text = .ok s := by
  obtain ⟨⟨es, hp, ho⟩, hc⟩ := ofFile_eq_ok_iff.1 h
  exact ofFile_of_write? (writable_ofEntries? (inRange_parse? hp) ho) hc

/-- A name with quotes, a backslash, a line break and a control character, and the longest time. -/
theorem ofFile_written_escapes :
    let file := "challenge.display_name = \"a'''b\\\"\\\\\\n\\u0007é\"\n" ++
      "challenge.base_url = 'http://[::1]'\n" ++
      "[channel]\nurl_env = 'CHANNEL'\nidle_timeout_secs = 0x7FFF_FFFF_FFFF_FFFF\n"
    let name := "a'''b\"\\\n\x07é"
    let channel : Channel :=
      { urlVariable := some "CHANNEL", idleTimeoutSecs := some 9223372036854775807 }
    ∃ s text, ofFile file = .ok s ∧ s.site.displayName = name ∧ s.channel = some channel ∧
      s.write? = some text ∧ ofFile text = .ok s := by
  intro file name channel
  have hv : (ofFile file).map (fun s => (s.site.displayName, s.channel)) =
      .ok (name, some channel) := by decide +kernel
  cases h : ofFile file with
  | error e =>
      rw [h] at hv
      cases hv
  | ok s =>
      rw [h] at hv
      obtain ⟨hn, hc⟩ := Prod.mk.inj (Except.ok.inj hv)
      obtain ⟨text, hw, ht⟩ := ofFile_written h
      exact ⟨s, text, rfl, hn, hc, hw, ht⟩

end TilePuzzle.Settings
