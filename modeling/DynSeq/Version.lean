namespace DynSeq

def version : String := "0.1.0"

end DynSeq
