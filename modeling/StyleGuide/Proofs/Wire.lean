import StyleGuide.Proofs.JsonLine
import StyleGuide.Server.Session

namespace StyleGuide

namespace Wire

def bytes (s : String) : List UInt8 := s.toUTF8.data.toList

end Wire

end StyleGuide
