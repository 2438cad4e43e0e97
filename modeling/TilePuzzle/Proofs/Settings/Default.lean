import TilePuzzle.Proofs.Settings.File
import TilePuzzle.Proofs.Url.Name
import TilePuzzle.Settings.Source

namespace TilePuzzle

namespace Settings

open Url

def defaultHost : List Char := "challenge.longshotsystems.co.uk".toList

theorem parseSpecial_default : Host.parseSpecial defaultHost = .ok (.domain defaultHost) := by
  have hd : Utf8.decodeLossy (Percent.decode defaultHost) = defaultHost := by decide +kernel
  have ha : Idna.toAscii? defaultHost = some defaultHost :=
    Idna.toAscii?_plain (by decide +kernel) (by decide +kernel)
  have hi : Ipv4.endsInNumber defaultHost = false := by decide +kernel
  rw [Host.parseSpecial, if_neg (by decide), hd, ha]
  simp only [hi]
  rfl

theorem parseHostPort_default :
    parseHostPort (.web 443) defaultHost = .ok (.domain defaultHost, none, []) := by
  have ht : hostText false defaultHost = defaultHost := by decide +kernel
  have hr : defaultHost.drop defaultHost.length = [] := by decide +kernel
  simp only [parseHostPort, ht, parseSpecial_default, hr]
  rfl

theorem parseAuthority_default :
    parseAuthority (.web 443) defaultHost = .ok ({ host := .domain defaultHost }, []) := by
  have ht : defaultHost.takeWhile (inAuthority (.web 443)) = defaultHost := by decide +kernel
  have hd : defaultHost.dropWhile (inAuthority (.web 443)) = [] := by decide +kernel
  have hl : splitLast? '@' defaultHost = none := by decide +kernel
  simp only [parseAuthority, ht, hd, hl, parseHostPort_default]
  rfl

theorem parse_default : ∃ url, Url.parse ({} : Site).baseUrl = .ok url ∧ url.isWebPage = true := by
  have hs : splitScheme? (clean ({} : Site).baseUrl.toList) =
      some ("https".toList, "//".toList ++ defaultHost) := by decide +kernel
  have hk : SchemeKind.ofScheme "https".toList = .web 443 := by decide +kernel
  have hd : ("//".toList ++ defaultHost).drop (("//".toList ++ defaultHost).takeWhile
      fun c => c = '/' || c = '\\').length = defaultHost := by
    decide +kernel
  rw [Url.parse, parseWith]
  simp only [hs, parseAbsolute, hk, hd, parseAfterSlashes, parseAuthority_default]
  exact ⟨_, rfl, rfl⟩

theorem check_default : ({} : Settings).check = .ok () := by
  obtain ⟨url, hu, hw⟩ := parse_default
  have hb : ({} : Site).checkBase = .ok () := by
    rw [Site.checkBase, hu]
    exact if_pos hw
  have hs : ({} : Site).check = .ok () := by
    rw [Site.check, hb]
    decide +kernel
  rw [check]
  simp only [hs]
  decide +kernel

theorem check_of_load {sources : String → Source} {named : Option String} {s : Settings}
    (h : load sources named = .ok s) : s.check = .ok () := by
  unfold load at h
  split at h
  next =>
    unfold Source.settings at h
    split at h
    next => exact (ofFile_eq_ok_iff.1 h).2
    next => cases h
  next =>
    cases h
    exact check_default

end Settings

end TilePuzzle
