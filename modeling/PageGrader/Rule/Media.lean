import PageGrader.Reference
import PageGrader.Rule

namespace PageGrader.Rule

def mute (audio : Site) : Bool := !audio.hasAttribute "controls"

def unruly (video : Site) : Bool := !video.hasAttribute "controls" || !video.hasAttribute "muted"

def controls : Rule where
  criterion := ⟨"media-controls", "Media with controls", .error, 1, -2⟩
  check d _ := do
    let audios ← d.query "audio"
    let videos ← d.query "video"
    let total := audios.length + videos.length
    if total == 0 then
      return .pass "No media elements found."
    else
      let invalid := audios.filter mute ++ videos.filter unruly
      if invalid.isEmpty then
        return .pass s!"All media elements ({total}) have the required attributes."
          (d.handles (audios ++ videos))
      else
        let count := invalid.length
        return .fail s!"{count} media elements are missing required attributes."
          ("<audio> and <video> elements need \"controls\". " ++
            "<video> elements also need \"muted\".")
          (d.handles invalid)

def lacksAlternative (image : Site) : Bool := (image.attribute? "alt").isNone

/-- Whether an image that shows something is marked as decoration. -/
def hidesAlternative (image : Site) : Bool :=
  ((image.attribute? "alt").any fun alt => alt.toList.all Text.isBlank) &&
    (image.attribute? "src").any fun source => Reference.isImage source.toList

def alternatives : Rule where
  criterion := ⟨"image-alt", "Images with alternative text", .error, 1, -2⟩
  check d _ := do
    let images ← d.query "img"
    let missing := images.filter lacksAlternative
    let suspect := images.filter hidesAlternative
    if missing.isEmpty && suspect.isEmpty then
      let count := images.length
      return .pass s!"All images ({count}) have alternative text." (d.handles images)
    else
      let problems :=
        (if missing.isEmpty then []
          else [s!"{missing.length} images are missing the alt attribute"]) ++
        (if suspect.isEmpty then []
          else [s!"{suspect.length} images have a suspicious empty alt"])
      return .fail (", ".intercalate problems ++ ".")
        ("Give every <img> an alt attribute describing the image. Leave alt empty only for " ++
          "purely decorative images.")
        (sortOn (·.index) (d.handles missing ++ d.handles suspect))

def imageSizes : Rule where
  criterion := ⟨"image-size", "Images ≤ 500KB", .warning, 1, -1⟩
  check _ _ := .ok (.pass "Image size check completed.")
  refinement := some .imageSizes

end PageGrader.Rule
