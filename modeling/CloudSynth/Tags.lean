import CloudSynth.Collection.SortedMap

/-!
# Tags

Named texts on a construct. The friendly name is the tag that users recognise a resource by.
-/

namespace CloudSynth

/-- The tags of a construct. -/
abbrev Tags := SortedMap String

namespace Tags

/-- The name of the tag that carries the friendly name. -/
def friendlyNameKey : String := "amplify:friendly-name"

/-- The friendly name. -/
def friendlyName? (tags : Tags) : Option String := tags.find? friendlyNameKey

/-- The tags with the given friendly name. -/
def withFriendlyName (tags : Tags) (name : String) : Tags := tags.insert friendlyNameKey name

end Tags

end CloudSynth
