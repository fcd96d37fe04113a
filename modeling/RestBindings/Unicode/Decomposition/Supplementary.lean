/-!
# Full compatibility decompositions: supplementary

Entries for characters beyond the first plane: mathematical alphabets, enclosed forms and further
ideographs.
Each pair holds a code point and the code points of its decomposition, which contain no
further decomposable character.  One list per row of 256 code points; a row is found by the
quotient of a code point by 256.
-/

namespace RestBindings.Unicode.Decomposition.Supplementary

/-- Row `0x107`. -/
def row107 : List (Nat × List Nat) := [
  (0x10781, [0x2D0]), (0x10782, [0x2D1]), (0x10783, [0xE6]), (0x10784, [0x299]),
  (0x10785, [0x253]), (0x10787, [0x2A3]), (0x10788, [0xAB66]), (0x10789, [0x2A5]),
  (0x1078A, [0x2A4]), (0x1078B, [0x256]), (0x1078C, [0x257]), (0x1078D, [0x1D91]),
  (0x1078E, [0x258]), (0x1078F, [0x25E]), (0x10790, [0x2A9]), (0x10791, [0x264]),
  (0x10792, [0x262]), (0x10793, [0x260]), (0x10794, [0x29B]), (0x10795, [0x127]),
  (0x10796, [0x29C]), (0x10797, [0x267]), (0x10798, [0x284]), (0x10799, [0x2AA]),
  (0x1079A, [0x2AB]), (0x1079B, [0x26C]), (0x1079C, [0x1DF04]), (0x1079D, [0xA78E]),
  (0x1079E, [0x26E]), (0x1079F, [0x1DF05]), (0x107A0, [0x28E]), (0x107A1, [0x1DF06]),
  (0x107A2, [0xF8]), (0x107A3, [0x276]), (0x107A4, [0x277]), (0x107A5, [0x71]),
  (0x107A6, [0x27A]), (0x107A7, [0x1DF08]), (0x107A8, [0x27D]), (0x107A9, [0x27E]),
  (0x107AA, [0x280]), (0x107AB, [0x2A8]), (0x107AC, [0x2A6]), (0x107AD, [0xAB67]),
  (0x107AE, [0x2A7]), (0x107AF, [0x288]), (0x107B0, [0x2C71]), (0x107B2, [0x28F]),
  (0x107B3, [0x2A1]), (0x107B4, [0x2A2]), (0x107B5, [0x298]), (0x107B6, [0x1C0]),
  (0x107B7, [0x1C1]), (0x107B8, [0x1C2]), (0x107B9, [0x1DF0A]), (0x107BA, [0x1DF1E])]

/-- Row `0x110`. -/
def row110 : List (Nat × List Nat) := [
  (0x1109A, [0x11099, 0x110BA]), (0x1109C, [0x1109B, 0x110BA]), (0x110AB, [0x110A5, 0x110BA])]

/-- Row `0x111`. -/
def row111 : List (Nat × List Nat) := [
  (0x1112E, [0x11131, 0x11127]), (0x1112F, [0x11132, 0x11127])]

/-- Row `0x113`. -/
def row113 : List (Nat × List Nat) := [
  (0x1134B, [0x11347, 0x1133E]), (0x1134C, [0x11347, 0x11357])]

/-- Row `0x114`. -/
def row114 : List (Nat × List Nat) := [
  (0x114BB, [0x114B9, 0x114BA]), (0x114BC, [0x114B9, 0x114B0]), (0x114BE, [0x114B9, 0x114BD])]

/-- Row `0x115`. -/
def row115 : List (Nat × List Nat) := [
  (0x115BA, [0x115B8, 0x115AF]), (0x115BB, [0x115B9, 0x115AF])]

/-- Row `0x119`. -/
def row119 : List (Nat × List Nat) := [
  (0x11938, [0x11935, 0x11930])]

/-- Row `0x1d1`. -/
def row1D1 : List (Nat × List Nat) := [
  (0x1D15E, [0x1D157, 0x1D165]), (0x1D15F, [0x1D158, 0x1D165]),
  (0x1D160, [0x1D158, 0x1D165, 0x1D16E]), (0x1D161, [0x1D158, 0x1D165, 0x1D16F]),
  (0x1D162, [0x1D158, 0x1D165, 0x1D170]), (0x1D163, [0x1D158, 0x1D165, 0x1D171]),
  (0x1D164, [0x1D158, 0x1D165, 0x1D172]), (0x1D1BB, [0x1D1B9, 0x1D165]),
  (0x1D1BC, [0x1D1BA, 0x1D165]), (0x1D1BD, [0x1D1B9, 0x1D165, 0x1D16E]),
  (0x1D1BE, [0x1D1BA, 0x1D165, 0x1D16E]), (0x1D1BF, [0x1D1B9, 0x1D165, 0x1D16F]),
  (0x1D1C0, [0x1D1BA, 0x1D165, 0x1D16F])]

/-- Row `0x1d4`. -/
def row1D4 : List (Nat × List Nat) := [
  (0x1D400, [0x41]), (0x1D401, [0x42]), (0x1D402, [0x43]), (0x1D403, [0x44]), (0x1D404, [0x45]),
  (0x1D405, [0x46]), (0x1D406, [0x47]), (0x1D407, [0x48]), (0x1D408, [0x49]), (0x1D409, [0x4A]),
  (0x1D40A, [0x4B]), (0x1D40B, [0x4C]), (0x1D40C, [0x4D]), (0x1D40D, [0x4E]), (0x1D40E, [0x4F]),
  (0x1D40F, [0x50]), (0x1D410, [0x51]), (0x1D411, [0x52]), (0x1D412, [0x53]), (0x1D413, [0x54]),
  (0x1D414, [0x55]), (0x1D415, [0x56]), (0x1D416, [0x57]), (0x1D417, [0x58]), (0x1D418, [0x59]),
  (0x1D419, [0x5A]), (0x1D41A, [0x61]), (0x1D41B, [0x62]), (0x1D41C, [0x63]), (0x1D41D, [0x64]),
  (0x1D41E, [0x65]), (0x1D41F, [0x66]), (0x1D420, [0x67]), (0x1D421, [0x68]), (0x1D422, [0x69]),
  (0x1D423, [0x6A]), (0x1D424, [0x6B]), (0x1D425, [0x6C]), (0x1D426, [0x6D]), (0x1D427, [0x6E]),
  (0x1D428, [0x6F]), (0x1D429, [0x70]), (0x1D42A, [0x71]), (0x1D42B, [0x72]), (0x1D42C, [0x73]),
  (0x1D42D, [0x74]), (0x1D42E, [0x75]), (0x1D42F, [0x76]), (0x1D430, [0x77]), (0x1D431, [0x78]),
  (0x1D432, [0x79]), (0x1D433, [0x7A]), (0x1D434, [0x41]), (0x1D435, [0x42]), (0x1D436, [0x43]),
  (0x1D437, [0x44]), (0x1D438, [0x45]), (0x1D439, [0x46]), (0x1D43A, [0x47]), (0x1D43B, [0x48]),
  (0x1D43C, [0x49]), (0x1D43D, [0x4A]), (0x1D43E, [0x4B]), (0x1D43F, [0x4C]), (0x1D440, [0x4D]),
  (0x1D441, [0x4E]), (0x1D442, [0x4F]), (0x1D443, [0x50]), (0x1D444, [0x51]), (0x1D445, [0x52]),
  (0x1D446, [0x53]), (0x1D447, [0x54]), (0x1D448, [0x55]), (0x1D449, [0x56]), (0x1D44A, [0x57]),
  (0x1D44B, [0x58]), (0x1D44C, [0x59]), (0x1D44D, [0x5A]), (0x1D44E, [0x61]), (0x1D44F, [0x62]),
  (0x1D450, [0x63]), (0x1D451, [0x64]), (0x1D452, [0x65]), (0x1D453, [0x66]), (0x1D454, [0x67]),
  (0x1D456, [0x69]), (0x1D457, [0x6A]), (0x1D458, [0x6B]), (0x1D459, [0x6C]), (0x1D45A, [0x6D]),
  (0x1D45B, [0x6E]), (0x1D45C, [0x6F]), (0x1D45D, [0x70]), (0x1D45E, [0x71]), (0x1D45F, [0x72]),
  (0x1D460, [0x73]), (0x1D461, [0x74]), (0x1D462, [0x75]), (0x1D463, [0x76]), (0x1D464, [0x77]),
  (0x1D465, [0x78]), (0x1D466, [0x79]), (0x1D467, [0x7A]), (0x1D468, [0x41]), (0x1D469, [0x42]),
  (0x1D46A, [0x43]), (0x1D46B, [0x44]), (0x1D46C, [0x45]), (0x1D46D, [0x46]), (0x1D46E, [0x47]),
  (0x1D46F, [0x48]), (0x1D470, [0x49]), (0x1D471, [0x4A]), (0x1D472, [0x4B]), (0x1D473, [0x4C]),
  (0x1D474, [0x4D]), (0x1D475, [0x4E]), (0x1D476, [0x4F]), (0x1D477, [0x50]), (0x1D478, [0x51]),
  (0x1D479, [0x52]), (0x1D47A, [0x53]), (0x1D47B, [0x54]), (0x1D47C, [0x55]), (0x1D47D, [0x56]),
  (0x1D47E, [0x57]), (0x1D47F, [0x58]), (0x1D480, [0x59]), (0x1D481, [0x5A]), (0x1D482, [0x61]),
  (0x1D483, [0x62]), (0x1D484, [0x63]), (0x1D485, [0x64]), (0x1D486, [0x65]), (0x1D487, [0x66]),
  (0x1D488, [0x67]), (0x1D489, [0x68]), (0x1D48A, [0x69]), (0x1D48B, [0x6A]), (0x1D48C, [0x6B]),
  (0x1D48D, [0x6C]), (0x1D48E, [0x6D]), (0x1D48F, [0x6E]), (0x1D490, [0x6F]), (0x1D491, [0x70]),
  (0x1D492, [0x71]), (0x1D493, [0x72]), (0x1D494, [0x73]), (0x1D495, [0x74]), (0x1D496, [0x75]),
  (0x1D497, [0x76]), (0x1D498, [0x77]), (0x1D499, [0x78]), (0x1D49A, [0x79]), (0x1D49B, [0x7A]),
  (0x1D49C, [0x41]), (0x1D49E, [0x43]), (0x1D49F, [0x44]), (0x1D4A2, [0x47]), (0x1D4A5, [0x4A]),
  (0x1D4A6, [0x4B]), (0x1D4A9, [0x4E]), (0x1D4AA, [0x4F]), (0x1D4AB, [0x50]), (0x1D4AC, [0x51]),
  (0x1D4AE, [0x53]), (0x1D4AF, [0x54]), (0x1D4B0, [0x55]), (0x1D4B1, [0x56]), (0x1D4B2, [0x57]),
  (0x1D4B3, [0x58]), (0x1D4B4, [0x59]), (0x1D4B5, [0x5A]), (0x1D4B6, [0x61]), (0x1D4B7, [0x62]),
  (0x1D4B8, [0x63]), (0x1D4B9, [0x64]), (0x1D4BB, [0x66]), (0x1D4BD, [0x68]), (0x1D4BE, [0x69]),
  (0x1D4BF, [0x6A]), (0x1D4C0, [0x6B]), (0x1D4C1, [0x6C]), (0x1D4C2, [0x6D]), (0x1D4C3, [0x6E]),
  (0x1D4C5, [0x70]), (0x1D4C6, [0x71]), (0x1D4C7, [0x72]), (0x1D4C8, [0x73]), (0x1D4C9, [0x74]),
  (0x1D4CA, [0x75]), (0x1D4CB, [0x76]), (0x1D4CC, [0x77]), (0x1D4CD, [0x78]), (0x1D4CE, [0x79]),
  (0x1D4CF, [0x7A]), (0x1D4D0, [0x41]), (0x1D4D1, [0x42]), (0x1D4D2, [0x43]), (0x1D4D3, [0x44]),
  (0x1D4D4, [0x45]), (0x1D4D5, [0x46]), (0x1D4D6, [0x47]), (0x1D4D7, [0x48]), (0x1D4D8, [0x49]),
  (0x1D4D9, [0x4A]), (0x1D4DA, [0x4B]), (0x1D4DB, [0x4C]), (0x1D4DC, [0x4D]), (0x1D4DD, [0x4E]),
  (0x1D4DE, [0x4F]), (0x1D4DF, [0x50]), (0x1D4E0, [0x51]), (0x1D4E1, [0x52]), (0x1D4E2, [0x53]),
  (0x1D4E3, [0x54]), (0x1D4E4, [0x55]), (0x1D4E5, [0x56]), (0x1D4E6, [0x57]), (0x1D4E7, [0x58]),
  (0x1D4E8, [0x59]), (0x1D4E9, [0x5A]), (0x1D4EA, [0x61]), (0x1D4EB, [0x62]), (0x1D4EC, [0x63]),
  (0x1D4ED, [0x64]), (0x1D4EE, [0x65]), (0x1D4EF, [0x66]), (0x1D4F0, [0x67]), (0x1D4F1, [0x68]),
  (0x1D4F2, [0x69]), (0x1D4F3, [0x6A]), (0x1D4F4, [0x6B]), (0x1D4F5, [0x6C]), (0x1D4F6, [0x6D]),
  (0x1D4F7, [0x6E]), (0x1D4F8, [0x6F]), (0x1D4F9, [0x70]), (0x1D4FA, [0x71]), (0x1D4FB, [0x72]),
  (0x1D4FC, [0x73]), (0x1D4FD, [0x74]), (0x1D4FE, [0x75]), (0x1D4FF, [0x76])]

/-- Row `0x1d5`. -/
def row1D5 : List (Nat × List Nat) := [
  (0x1D500, [0x77]), (0x1D501, [0x78]), (0x1D502, [0x79]), (0x1D503, [0x7A]), (0x1D504, [0x41]),
  (0x1D505, [0x42]), (0x1D507, [0x44]), (0x1D508, [0x45]), (0x1D509, [0x46]), (0x1D50A, [0x47]),
  (0x1D50D, [0x4A]), (0x1D50E, [0x4B]), (0x1D50F, [0x4C]), (0x1D510, [0x4D]), (0x1D511, [0x4E]),
  (0x1D512, [0x4F]), (0x1D513, [0x50]), (0x1D514, [0x51]), (0x1D516, [0x53]), (0x1D517, [0x54]),
  (0x1D518, [0x55]), (0x1D519, [0x56]), (0x1D51A, [0x57]), (0x1D51B, [0x58]), (0x1D51C, [0x59]),
  (0x1D51E, [0x61]), (0x1D51F, [0x62]), (0x1D520, [0x63]), (0x1D521, [0x64]), (0x1D522, [0x65]),
  (0x1D523, [0x66]), (0x1D524, [0x67]), (0x1D525, [0x68]), (0x1D526, [0x69]), (0x1D527, [0x6A]),
  (0x1D528, [0x6B]), (0x1D529, [0x6C]), (0x1D52A, [0x6D]), (0x1D52B, [0x6E]), (0x1D52C, [0x6F]),
  (0x1D52D, [0x70]), (0x1D52E, [0x71]), (0x1D52F, [0x72]), (0x1D530, [0x73]), (0x1D531, [0x74]),
  (0x1D532, [0x75]), (0x1D533, [0x76]), (0x1D534, [0x77]), (0x1D535, [0x78]), (0x1D536, [0x79]),
  (0x1D537, [0x7A]), (0x1D538, [0x41]), (0x1D539, [0x42]), (0x1D53B, [0x44]), (0x1D53C, [0x45]),
  (0x1D53D, [0x46]), (0x1D53E, [0x47]), (0x1D540, [0x49]), (0x1D541, [0x4A]), (0x1D542, [0x4B]),
  (0x1D543, [0x4C]), (0x1D544, [0x4D]), (0x1D546, [0x4F]), (0x1D54A, [0x53]), (0x1D54B, [0x54]),
  (0x1D54C, [0x55]), (0x1D54D, [0x56]), (0x1D54E, [0x57]), (0x1D54F, [0x58]), (0x1D550, [0x59]),
  (0x1D552, [0x61]), (0x1D553, [0x62]), (0x1D554, [0x63]), (0x1D555, [0x64]), (0x1D556, [0x65]),
  (0x1D557, [0x66]), (0x1D558, [0x67]), (0x1D559, [0x68]), (0x1D55A, [0x69]), (0x1D55B, [0x6A]),
  (0x1D55C, [0x6B]), (0x1D55D, [0x6C]), (0x1D55E, [0x6D]), (0x1D55F, [0x6E]), (0x1D560, [0x6F]),
  (0x1D561, [0x70]), (0x1D562, [0x71]), (0x1D563, [0x72]), (0x1D564, [0x73]), (0x1D565, [0x74]),
  (0x1D566, [0x75]), (0x1D567, [0x76]), (0x1D568, [0x77]), (0x1D569, [0x78]), (0x1D56A, [0x79]),
  (0x1D56B, [0x7A]), (0x1D56C, [0x41]), (0x1D56D, [0x42]), (0x1D56E, [0x43]), (0x1D56F, [0x44]),
  (0x1D570, [0x45]), (0x1D571, [0x46]), (0x1D572, [0x47]), (0x1D573, [0x48]), (0x1D574, [0x49]),
  (0x1D575, [0x4A]), (0x1D576, [0x4B]), (0x1D577, [0x4C]), (0x1D578, [0x4D]), (0x1D579, [0x4E]),
  (0x1D57A, [0x4F]), (0x1D57B, [0x50]), (0x1D57C, [0x51]), (0x1D57D, [0x52]), (0x1D57E, [0x53]),
  (0x1D57F, [0x54]), (0x1D580, [0x55]), (0x1D581, [0x56]), (0x1D582, [0x57]), (0x1D583, [0x58]),
  (0x1D584, [0x59]), (0x1D585, [0x5A]), (0x1D586, [0x61]), (0x1D587, [0x62]), (0x1D588, [0x63]),
  (0x1D589, [0x64]), (0x1D58A, [0x65]), (0x1D58B, [0x66]), (0x1D58C, [0x67]), (0x1D58D, [0x68]),
  (0x1D58E, [0x69]), (0x1D58F, [0x6A]), (0x1D590, [0x6B]), (0x1D591, [0x6C]), (0x1D592, [0x6D]),
  (0x1D593, [0x6E]), (0x1D594, [0x6F]), (0x1D595, [0x70]), (0x1D596, [0x71]), (0x1D597, [0x72]),
  (0x1D598, [0x73]), (0x1D599, [0x74]), (0x1D59A, [0x75]), (0x1D59B, [0x76]), (0x1D59C, [0x77]),
  (0x1D59D, [0x78]), (0x1D59E, [0x79]), (0x1D59F, [0x7A]), (0x1D5A0, [0x41]), (0x1D5A1, [0x42]),
  (0x1D5A2, [0x43]), (0x1D5A3, [0x44]), (0x1D5A4, [0x45]), (0x1D5A5, [0x46]), (0x1D5A6, [0x47]),
  (0x1D5A7, [0x48]), (0x1D5A8, [0x49]), (0x1D5A9, [0x4A]), (0x1D5AA, [0x4B]), (0x1D5AB, [0x4C]),
  (0x1D5AC, [0x4D]), (0x1D5AD, [0x4E]), (0x1D5AE, [0x4F]), (0x1D5AF, [0x50]), (0x1D5B0, [0x51]),
  (0x1D5B1, [0x52]), (0x1D5B2, [0x53]), (0x1D5B3, [0x54]), (0x1D5B4, [0x55]), (0x1D5B5, [0x56]),
  (0x1D5B6, [0x57]), (0x1D5B7, [0x58]), (0x1D5B8, [0x59]), (0x1D5B9, [0x5A]), (0x1D5BA, [0x61]),
  (0x1D5BB, [0x62]), (0x1D5BC, [0x63]), (0x1D5BD, [0x64]), (0x1D5BE, [0x65]), (0x1D5BF, [0x66]),
  (0x1D5C0, [0x67]), (0x1D5C1, [0x68]), (0x1D5C2, [0x69]), (0x1D5C3, [0x6A]), (0x1D5C4, [0x6B]),
  (0x1D5C5, [0x6C]), (0x1D5C6, [0x6D]), (0x1D5C7, [0x6E]), (0x1D5C8, [0x6F]), (0x1D5C9, [0x70]),
  (0x1D5CA, [0x71]), (0x1D5CB, [0x72]), (0x1D5CC, [0x73]), (0x1D5CD, [0x74]), (0x1D5CE, [0x75]),
  (0x1D5CF, [0x76]), (0x1D5D0, [0x77]), (0x1D5D1, [0x78]), (0x1D5D2, [0x79]), (0x1D5D3, [0x7A]),
  (0x1D5D4, [0x41]), (0x1D5D5, [0x42]), (0x1D5D6, [0x43]), (0x1D5D7, [0x44]), (0x1D5D8, [0x45]),
  (0x1D5D9, [0x46]), (0x1D5DA, [0x47]), (0x1D5DB, [0x48]), (0x1D5DC, [0x49]), (0x1D5DD, [0x4A]),
  (0x1D5DE, [0x4B]), (0x1D5DF, [0x4C]), (0x1D5E0, [0x4D]), (0x1D5E1, [0x4E]), (0x1D5E2, [0x4F]),
  (0x1D5E3, [0x50]), (0x1D5E4, [0x51]), (0x1D5E5, [0x52]), (0x1D5E6, [0x53]), (0x1D5E7, [0x54]),
  (0x1D5E8, [0x55]), (0x1D5E9, [0x56]), (0x1D5EA, [0x57]), (0x1D5EB, [0x58]), (0x1D5EC, [0x59]),
  (0x1D5ED, [0x5A]), (0x1D5EE, [0x61]), (0x1D5EF, [0x62]), (0x1D5F0, [0x63]), (0x1D5F1, [0x64]),
  (0x1D5F2, [0x65]), (0x1D5F3, [0x66]), (0x1D5F4, [0x67]), (0x1D5F5, [0x68]), (0x1D5F6, [0x69]),
  (0x1D5F7, [0x6A]), (0x1D5F8, [0x6B]), (0x1D5F9, [0x6C]), (0x1D5FA, [0x6D]), (0x1D5FB, [0x6E]),
  (0x1D5FC, [0x6F]), (0x1D5FD, [0x70]), (0x1D5FE, [0x71]), (0x1D5FF, [0x72])]

/-- Row `0x1d6`. -/
def row1D6 : List (Nat × List Nat) := [
  (0x1D600, [0x73]), (0x1D601, [0x74]), (0x1D602, [0x75]), (0x1D603, [0x76]), (0x1D604, [0x77]),
  (0x1D605, [0x78]), (0x1D606, [0x79]), (0x1D607, [0x7A]), (0x1D608, [0x41]), (0x1D609, [0x42]),
  (0x1D60A, [0x43]), (0x1D60B, [0x44]), (0x1D60C, [0x45]), (0x1D60D, [0x46]), (0x1D60E, [0x47]),
  (0x1D60F, [0x48]), (0x1D610, [0x49]), (0x1D611, [0x4A]), (0x1D612, [0x4B]), (0x1D613, [0x4C]),
  (0x1D614, [0x4D]), (0x1D615, [0x4E]), (0x1D616, [0x4F]), (0x1D617, [0x50]), (0x1D618, [0x51]),
  (0x1D619, [0x52]), (0x1D61A, [0x53]), (0x1D61B, [0x54]), (0x1D61C, [0x55]), (0x1D61D, [0x56]),
  (0x1D61E, [0x57]), (0x1D61F, [0x58]), (0x1D620, [0x59]), (0x1D621, [0x5A]), (0x1D622, [0x61]),
  (0x1D623, [0x62]), (0x1D624, [0x63]), (0x1D625, [0x64]), (0x1D626, [0x65]), (0x1D627, [0x66]),
  (0x1D628, [0x67]), (0x1D629, [0x68]), (0x1D62A, [0x69]), (0x1D62B, [0x6A]), (0x1D62C, [0x6B]),
  (0x1D62D, [0x6C]), (0x1D62E, [0x6D]), (0x1D62F, [0x6E]), (0x1D630, [0x6F]), (0x1D631, [0x70]),
  (0x1D632, [0x71]), (0x1D633, [0x72]), (0x1D634, [0x73]), (0x1D635, [0x74]), (0x1D636, [0x75]),
  (0x1D637, [0x76]), (0x1D638, [0x77]), (0x1D639, [0x78]), (0x1D63A, [0x79]), (0x1D63B, [0x7A]),
  (0x1D63C, [0x41]), (0x1D63D, [0x42]), (0x1D63E, [0x43]), (0x1D63F, [0x44]), (0x1D640, [0x45]),
  (0x1D641, [0x46]), (0x1D642, [0x47]), (0x1D643, [0x48]), (0x1D644, [0x49]), (0x1D645, [0x4A]),
  (0x1D646, [0x4B]), (0x1D647, [0x4C]), (0x1D648, [0x4D]), (0x1D649, [0x4E]), (0x1D64A, [0x4F]),
  (0x1D64B, [0x50]), (0x1D64C, [0x51]), (0x1D64D, [0x52]), (0x1D64E, [0x53]), (0x1D64F, [0x54]),
  (0x1D650, [0x55]), (0x1D651, [0x56]), (0x1D652, [0x57]), (0x1D653, [0x58]), (0x1D654, [0x59]),
  (0x1D655, [0x5A]), (0x1D656, [0x61]), (0x1D657, [0x62]), (0x1D658, [0x63]), (0x1D659, [0x64]),
  (0x1D65A, [0x65]), (0x1D65B, [0x66]), (0x1D65C, [0x67]), (0x1D65D, [0x68]), (0x1D65E, [0x69]),
  (0x1D65F, [0x6A]), (0x1D660, [0x6B]), (0x1D661, [0x6C]), (0x1D662, [0x6D]), (0x1D663, [0x6E]),
  (0x1D664, [0x6F]), (0x1D665, [0x70]), (0x1D666, [0x71]), (0x1D667, [0x72]), (0x1D668, [0x73]),
  (0x1D669, [0x74]), (0x1D66A, [0x75]), (0x1D66B, [0x76]), (0x1D66C, [0x77]), (0x1D66D, [0x78]),
  (0x1D66E, [0x79]), (0x1D66F, [0x7A]), (0x1D670, [0x41]), (0x1D671, [0x42]), (0x1D672, [0x43]),
  (0x1D673, [0x44]), (0x1D674, [0x45]), (0x1D675, [0x46]), (0x1D676, [0x47]), (0x1D677, [0x48]),
  (0x1D678, [0x49]), (0x1D679, [0x4A]), (0x1D67A, [0x4B]), (0x1D67B, [0x4C]), (0x1D67C, [0x4D]),
  (0x1D67D, [0x4E]), (0x1D67E, [0x4F]), (0x1D67F, [0x50]), (0x1D680, [0x51]), (0x1D681, [0x52]),
  (0x1D682, [0x53]), (0x1D683, [0x54]), (0x1D684, [0x55]), (0x1D685, [0x56]), (0x1D686, [0x57]),
  (0x1D687, [0x58]), (0x1D688, [0x59]), (0x1D689, [0x5A]), (0x1D68A, [0x61]), (0x1D68B, [0x62]),
  (0x1D68C, [0x63]), (0x1D68D, [0x64]), (0x1D68E, [0x65]), (0x1D68F, [0x66]), (0x1D690, [0x67]),
  (0x1D691, [0x68]), (0x1D692, [0x69]), (0x1D693, [0x6A]), (0x1D694, [0x6B]), (0x1D695, [0x6C]),
  (0x1D696, [0x6D]), (0x1D697, [0x6E]), (0x1D698, [0x6F]), (0x1D699, [0x70]), (0x1D69A, [0x71]),
  (0x1D69B, [0x72]), (0x1D69C, [0x73]), (0x1D69D, [0x74]), (0x1D69E, [0x75]), (0x1D69F, [0x76]),
  (0x1D6A0, [0x77]), (0x1D6A1, [0x78]), (0x1D6A2, [0x79]), (0x1D6A3, [0x7A]), (0x1D6A4, [0x131]),
  (0x1D6A5, [0x237]), (0x1D6A8, [0x391]), (0x1D6A9, [0x392]), (0x1D6AA, [0x393]),
  (0x1D6AB, [0x394]), (0x1D6AC, [0x395]), (0x1D6AD, [0x396]), (0x1D6AE, [0x397]),
  (0x1D6AF, [0x398]), (0x1D6B0, [0x399]), (0x1D6B1, [0x39A]), (0x1D6B2, [0x39B]),
  (0x1D6B3, [0x39C]), (0x1D6B4, [0x39D]), (0x1D6B5, [0x39E]), (0x1D6B6, [0x39F]),
  (0x1D6B7, [0x3A0]), (0x1D6B8, [0x3A1]), (0x1D6B9, [0x398]), (0x1D6BA, [0x3A3]),
  (0x1D6BB, [0x3A4]), (0x1D6BC, [0x3A5]), (0x1D6BD, [0x3A6]), (0x1D6BE, [0x3A7]),
  (0x1D6BF, [0x3A8]), (0x1D6C0, [0x3A9]), (0x1D6C1, [0x2207]), (0x1D6C2, [0x3B1]),
  (0x1D6C3, [0x3B2]), (0x1D6C4, [0x3B3]), (0x1D6C5, [0x3B4]), (0x1D6C6, [0x3B5]),
  (0x1D6C7, [0x3B6]), (0x1D6C8, [0x3B7]), (0x1D6C9, [0x3B8]), (0x1D6CA, [0x3B9]),
  (0x1D6CB, [0x3BA]), (0x1D6CC, [0x3BB]), (0x1D6CD, [0x3BC]), (0x1D6CE, [0x3BD]),
  (0x1D6CF, [0x3BE]), (0x1D6D0, [0x3BF]), (0x1D6D1, [0x3C0]), (0x1D6D2, [0x3C1]),
  (0x1D6D3, [0x3C2]), (0x1D6D4, [0x3C3]), (0x1D6D5, [0x3C4]), (0x1D6D6, [0x3C5]),
  (0x1D6D7, [0x3C6]), (0x1D6D8, [0x3C7]), (0x1D6D9, [0x3C8]), (0x1D6DA, [0x3C9]),
  (0x1D6DB, [0x2202]), (0x1D6DC, [0x3B5]), (0x1D6DD, [0x3B8]), (0x1D6DE, [0x3BA]),
  (0x1D6DF, [0x3C6]), (0x1D6E0, [0x3C1]), (0x1D6E1, [0x3C0]), (0x1D6E2, [0x391]),
  (0x1D6E3, [0x392]), (0x1D6E4, [0x393]), (0x1D6E5, [0x394]), (0x1D6E6, [0x395]),
  (0x1D6E7, [0x396]), (0x1D6E8, [0x397]), (0x1D6E9, [0x398]), (0x1D6EA, [0x399]),
  (0x1D6EB, [0x39A]), (0x1D6EC, [0x39B]), (0x1D6ED, [0x39C]), (0x1D6EE, [0x39D]),
  (0x1D6EF, [0x39E]), (0x1D6F0, [0x39F]), (0x1D6F1, [0x3A0]), (0x1D6F2, [0x3A1]),
  (0x1D6F3, [0x398]), (0x1D6F4, [0x3A3]), (0x1D6F5, [0x3A4]), (0x1D6F6, [0x3A5]),
  (0x1D6F7, [0x3A6]), (0x1D6F8, [0x3A7]), (0x1D6F9, [0x3A8]), (0x1D6FA, [0x3A9]),
  (0x1D6FB, [0x2207]), (0x1D6FC, [0x3B1]), (0x1D6FD, [0x3B2]), (0x1D6FE, [0x3B3]),
  (0x1D6FF, [0x3B4])]

/-- Row `0x1d7`. -/
def row1D7 : List (Nat × List Nat) := [
  (0x1D700, [0x3B5]), (0x1D701, [0x3B6]), (0x1D702, [0x3B7]), (0x1D703, [0x3B8]),
  (0x1D704, [0x3B9]), (0x1D705, [0x3BA]), (0x1D706, [0x3BB]), (0x1D707, [0x3BC]),
  (0x1D708, [0x3BD]), (0x1D709, [0x3BE]), (0x1D70A, [0x3BF]), (0x1D70B, [0x3C0]),
  (0x1D70C, [0x3C1]), (0x1D70D, [0x3C2]), (0x1D70E, [0x3C3]), (0x1D70F, [0x3C4]),
  (0x1D710, [0x3C5]), (0x1D711, [0x3C6]), (0x1D712, [0x3C7]), (0x1D713, [0x3C8]),
  (0x1D714, [0x3C9]), (0x1D715, [0x2202]), (0x1D716, [0x3B5]), (0x1D717, [0x3B8]),
  (0x1D718, [0x3BA]), (0x1D719, [0x3C6]), (0x1D71A, [0x3C1]), (0x1D71B, [0x3C0]),
  (0x1D71C, [0x391]), (0x1D71D, [0x392]), (0x1D71E, [0x393]), (0x1D71F, [0x394]),
  (0x1D720, [0x395]), (0x1D721, [0x396]), (0x1D722, [0x397]), (0x1D723, [0x398]),
  (0x1D724, [0x399]), (0x1D725, [0x39A]), (0x1D726, [0x39B]), (0x1D727, [0x39C]),
  (0x1D728, [0x39D]), (0x1D729, [0x39E]), (0x1D72A, [0x39F]), (0x1D72B, [0x3A0]),
  (0x1D72C, [0x3A1]), (0x1D72D, [0x398]), (0x1D72E, [0x3A3]), (0x1D72F, [0x3A4]),
  (0x1D730, [0x3A5]), (0x1D731, [0x3A6]), (0x1D732, [0x3A7]), (0x1D733, [0x3A8]),
  (0x1D734, [0x3A9]), (0x1D735, [0x2207]), (0x1D736, [0x3B1]), (0x1D737, [0x3B2]),
  (0x1D738, [0x3B3]), (0x1D739, [0x3B4]), (0x1D73A, [0x3B5]), (0x1D73B, [0x3B6]),
  (0x1D73C, [0x3B7]), (0x1D73D, [0x3B8]), (0x1D73E, [0x3B9]), (0x1D73F, [0x3BA]),
  (0x1D740, [0x3BB]), (0x1D741, [0x3BC]), (0x1D742, [0x3BD]), (0x1D743, [0x3BE]),
  (0x1D744, [0x3BF]), (0x1D745, [0x3C0]), (0x1D746, [0x3C1]), (0x1D747, [0x3C2]),
  (0x1D748, [0x3C3]), (0x1D749, [0x3C4]), (0x1D74A, [0x3C5]), (0x1D74B, [0x3C6]),
  (0x1D74C, [0x3C7]), (0x1D74D, [0x3C8]), (0x1D74E, [0x3C9]), (0x1D74F, [0x2202]),
  (0x1D750, [0x3B5]), (0x1D751, [0x3B8]), (0x1D752, [0x3BA]), (0x1D753, [0x3C6]),
  (0x1D754, [0x3C1]), (0x1D755, [0x3C0]), (0x1D756, [0x391]), (0x1D757, [0x392]),
  (0x1D758, [0x393]), (0x1D759, [0x394]), (0x1D75A, [0x395]), (0x1D75B, [0x396]),
  (0x1D75C, [0x397]), (0x1D75D, [0x398]), (0x1D75E, [0x399]), (0x1D75F, [0x39A]),
  (0x1D760, [0x39B]), (0x1D761, [0x39C]), (0x1D762, [0x39D]), (0x1D763, [0x39E]),
  (0x1D764, [0x39F]), (0x1D765, [0x3A0]), (0x1D766, [0x3A1]), (0x1D767, [0x398]),
  (0x1D768, [0x3A3]), (0x1D769, [0x3A4]), (0x1D76A, [0x3A5]), (0x1D76B, [0x3A6]),
  (0x1D76C, [0x3A7]), (0x1D76D, [0x3A8]), (0x1D76E, [0x3A9]), (0x1D76F, [0x2207]),
  (0x1D770, [0x3B1]), (0x1D771, [0x3B2]), (0x1D772, [0x3B3]), (0x1D773, [0x3B4]),
  (0x1D774, [0x3B5]), (0x1D775, [0x3B6]), (0x1D776, [0x3B7]), (0x1D777, [0x3B8]),
  (0x1D778, [0x3B9]), (0x1D779, [0x3BA]), (0x1D77A, [0x3BB]), (0x1D77B, [0x3BC]),
  (0x1D77C, [0x3BD]), (0x1D77D, [0x3BE]), (0x1D77E, [0x3BF]), (0x1D77F, [0x3C0]),
  (0x1D780, [0x3C1]), (0x1D781, [0x3C2]), (0x1D782, [0x3C3]), (0x1D783, [0x3C4]),
  (0x1D784, [0x3C5]), (0x1D785, [0x3C6]), (0x1D786, [0x3C7]), (0x1D787, [0x3C8]),
  (0x1D788, [0x3C9]), (0x1D789, [0x2202]), (0x1D78A, [0x3B5]), (0x1D78B, [0x3B8]),
  (0x1D78C, [0x3BA]), (0x1D78D, [0x3C6]), (0x1D78E, [0x3C1]), (0x1D78F, [0x3C0]),
  (0x1D790, [0x391]), (0x1D791, [0x392]), (0x1D792, [0x393]), (0x1D793, [0x394]),
  (0x1D794, [0x395]), (0x1D795, [0x396]), (0x1D796, [0x397]), (0x1D797, [0x398]),
  (0x1D798, [0x399]), (0x1D799, [0x39A]), (0x1D79A, [0x39B]), (0x1D79B, [0x39C]),
  (0x1D79C, [0x39D]), (0x1D79D, [0x39E]), (0x1D79E, [0x39F]), (0x1D79F, [0x3A0]),
  (0x1D7A0, [0x3A1]), (0x1D7A1, [0x398]), (0x1D7A2, [0x3A3]), (0x1D7A3, [0x3A4]),
  (0x1D7A4, [0x3A5]), (0x1D7A5, [0x3A6]), (0x1D7A6, [0x3A7]), (0x1D7A7, [0x3A8]),
  (0x1D7A8, [0x3A9]), (0x1D7A9, [0x2207]), (0x1D7AA, [0x3B1]), (0x1D7AB, [0x3B2]),
  (0x1D7AC, [0x3B3]), (0x1D7AD, [0x3B4]), (0x1D7AE, [0x3B5]), (0x1D7AF, [0x3B6]),
  (0x1D7B0, [0x3B7]), (0x1D7B1, [0x3B8]), (0x1D7B2, [0x3B9]), (0x1D7B3, [0x3BA]),
  (0x1D7B4, [0x3BB]), (0x1D7B5, [0x3BC]), (0x1D7B6, [0x3BD]), (0x1D7B7, [0x3BE]),
  (0x1D7B8, [0x3BF]), (0x1D7B9, [0x3C0]), (0x1D7BA, [0x3C1]), (0x1D7BB, [0x3C2]),
  (0x1D7BC, [0x3C3]), (0x1D7BD, [0x3C4]), (0x1D7BE, [0x3C5]), (0x1D7BF, [0x3C6]),
  (0x1D7C0, [0x3C7]), (0x1D7C1, [0x3C8]), (0x1D7C2, [0x3C9]), (0x1D7C3, [0x2202]),
  (0x1D7C4, [0x3B5]), (0x1D7C5, [0x3B8]), (0x1D7C6, [0x3BA]), (0x1D7C7, [0x3C6]),
  (0x1D7C8, [0x3C1]), (0x1D7C9, [0x3C0]), (0x1D7CA, [0x3DC]), (0x1D7CB, [0x3DD]),
  (0x1D7CE, [0x30]), (0x1D7CF, [0x31]), (0x1D7D0, [0x32]), (0x1D7D1, [0x33]), (0x1D7D2, [0x34]),
  (0x1D7D3, [0x35]), (0x1D7D4, [0x36]), (0x1D7D5, [0x37]), (0x1D7D6, [0x38]), (0x1D7D7, [0x39]),
  (0x1D7D8, [0x30]), (0x1D7D9, [0x31]), (0x1D7DA, [0x32]), (0x1D7DB, [0x33]), (0x1D7DC, [0x34]),
  (0x1D7DD, [0x35]), (0x1D7DE, [0x36]), (0x1D7DF, [0x37]), (0x1D7E0, [0x38]), (0x1D7E1, [0x39]),
  (0x1D7E2, [0x30]), (0x1D7E3, [0x31]), (0x1D7E4, [0x32]), (0x1D7E5, [0x33]), (0x1D7E6, [0x34]),
  (0x1D7E7, [0x35]), (0x1D7E8, [0x36]), (0x1D7E9, [0x37]), (0x1D7EA, [0x38]), (0x1D7EB, [0x39]),
  (0x1D7EC, [0x30]), (0x1D7ED, [0x31]), (0x1D7EE, [0x32]), (0x1D7EF, [0x33]), (0x1D7F0, [0x34]),
  (0x1D7F1, [0x35]), (0x1D7F2, [0x36]), (0x1D7F3, [0x37]), (0x1D7F4, [0x38]), (0x1D7F5, [0x39]),
  (0x1D7F6, [0x30]), (0x1D7F7, [0x31]), (0x1D7F8, [0x32]), (0x1D7F9, [0x33]), (0x1D7FA, [0x34]),
  (0x1D7FB, [0x35]), (0x1D7FC, [0x36]), (0x1D7FD, [0x37]), (0x1D7FE, [0x38]), (0x1D7FF, [0x39])]

/-- Row `0x1ee`. -/
def row1EE : List (Nat × List Nat) := [
  (0x1EE00, [0x627]), (0x1EE01, [0x628]), (0x1EE02, [0x62C]), (0x1EE03, [0x62F]),
  (0x1EE05, [0x648]), (0x1EE06, [0x632]), (0x1EE07, [0x62D]), (0x1EE08, [0x637]),
  (0x1EE09, [0x64A]), (0x1EE0A, [0x643]), (0x1EE0B, [0x644]), (0x1EE0C, [0x645]),
  (0x1EE0D, [0x646]), (0x1EE0E, [0x633]), (0x1EE0F, [0x639]), (0x1EE10, [0x641]),
  (0x1EE11, [0x635]), (0x1EE12, [0x642]), (0x1EE13, [0x631]), (0x1EE14, [0x634]),
  (0x1EE15, [0x62A]), (0x1EE16, [0x62B]), (0x1EE17, [0x62E]), (0x1EE18, [0x630]),
  (0x1EE19, [0x636]), (0x1EE1A, [0x638]), (0x1EE1B, [0x63A]), (0x1EE1C, [0x66E]),
  (0x1EE1D, [0x6BA]), (0x1EE1E, [0x6A1]), (0x1EE1F, [0x66F]), (0x1EE21, [0x628]),
  (0x1EE22, [0x62C]), (0x1EE24, [0x647]), (0x1EE27, [0x62D]), (0x1EE29, [0x64A]),
  (0x1EE2A, [0x643]), (0x1EE2B, [0x644]), (0x1EE2C, [0x645]), (0x1EE2D, [0x646]),
  (0x1EE2E, [0x633]), (0x1EE2F, [0x639]), (0x1EE30, [0x641]), (0x1EE31, [0x635]),
  (0x1EE32, [0x642]), (0x1EE34, [0x634]), (0x1EE35, [0x62A]), (0x1EE36, [0x62B]),
  (0x1EE37, [0x62E]), (0x1EE39, [0x636]), (0x1EE3B, [0x63A]), (0x1EE42, [0x62C]),
  (0x1EE47, [0x62D]), (0x1EE49, [0x64A]), (0x1EE4B, [0x644]), (0x1EE4D, [0x646]),
  (0x1EE4E, [0x633]), (0x1EE4F, [0x639]), (0x1EE51, [0x635]), (0x1EE52, [0x642]),
  (0x1EE54, [0x634]), (0x1EE57, [0x62E]), (0x1EE59, [0x636]), (0x1EE5B, [0x63A]),
  (0x1EE5D, [0x6BA]), (0x1EE5F, [0x66F]), (0x1EE61, [0x628]), (0x1EE62, [0x62C]),
  (0x1EE64, [0x647]), (0x1EE67, [0x62D]), (0x1EE68, [0x637]), (0x1EE69, [0x64A]),
  (0x1EE6A, [0x643]), (0x1EE6C, [0x645]), (0x1EE6D, [0x646]), (0x1EE6E, [0x633]),
  (0x1EE6F, [0x639]), (0x1EE70, [0x641]), (0x1EE71, [0x635]), (0x1EE72, [0x642]),
  (0x1EE74, [0x634]), (0x1EE75, [0x62A]), (0x1EE76, [0x62B]), (0x1EE77, [0x62E]),
  (0x1EE79, [0x636]), (0x1EE7A, [0x638]), (0x1EE7B, [0x63A]), (0x1EE7C, [0x66E]),
  (0x1EE7E, [0x6A1]), (0x1EE80, [0x627]), (0x1EE81, [0x628]), (0x1EE82, [0x62C]),
  (0x1EE83, [0x62F]), (0x1EE84, [0x647]), (0x1EE85, [0x648]), (0x1EE86, [0x632]),
  (0x1EE87, [0x62D]), (0x1EE88, [0x637]), (0x1EE89, [0x64A]), (0x1EE8B, [0x644]),
  (0x1EE8C, [0x645]), (0x1EE8D, [0x646]), (0x1EE8E, [0x633]), (0x1EE8F, [0x639]),
  (0x1EE90, [0x641]), (0x1EE91, [0x635]), (0x1EE92, [0x642]), (0x1EE93, [0x631]),
  (0x1EE94, [0x634]), (0x1EE95, [0x62A]), (0x1EE96, [0x62B]), (0x1EE97, [0x62E]),
  (0x1EE98, [0x630]), (0x1EE99, [0x636]), (0x1EE9A, [0x638]), (0x1EE9B, [0x63A]),
  (0x1EEA1, [0x628]), (0x1EEA2, [0x62C]), (0x1EEA3, [0x62F]), (0x1EEA5, [0x648]),
  (0x1EEA6, [0x632]), (0x1EEA7, [0x62D]), (0x1EEA8, [0x637]), (0x1EEA9, [0x64A]),
  (0x1EEAB, [0x644]), (0x1EEAC, [0x645]), (0x1EEAD, [0x646]), (0x1EEAE, [0x633]),
  (0x1EEAF, [0x639]), (0x1EEB0, [0x641]), (0x1EEB1, [0x635]), (0x1EEB2, [0x642]),
  (0x1EEB3, [0x631]), (0x1EEB4, [0x634]), (0x1EEB5, [0x62A]), (0x1EEB6, [0x62B]),
  (0x1EEB7, [0x62E]), (0x1EEB8, [0x630]), (0x1EEB9, [0x636]), (0x1EEBA, [0x638]),
  (0x1EEBB, [0x63A])]

/-- Row `0x1f1`. -/
def row1F1 : List (Nat × List Nat) := [
  (0x1F100, [0x30, 0x2E]), (0x1F101, [0x30, 0x2C]), (0x1F102, [0x31, 0x2C]),
  (0x1F103, [0x32, 0x2C]), (0x1F104, [0x33, 0x2C]), (0x1F105, [0x34, 0x2C]),
  (0x1F106, [0x35, 0x2C]), (0x1F107, [0x36, 0x2C]), (0x1F108, [0x37, 0x2C]),
  (0x1F109, [0x38, 0x2C]), (0x1F10A, [0x39, 0x2C]), (0x1F110, [0x28, 0x41, 0x29]),
  (0x1F111, [0x28, 0x42, 0x29]), (0x1F112, [0x28, 0x43, 0x29]), (0x1F113, [0x28, 0x44, 0x29]),
  (0x1F114, [0x28, 0x45, 0x29]), (0x1F115, [0x28, 0x46, 0x29]), (0x1F116, [0x28, 0x47, 0x29]),
  (0x1F117, [0x28, 0x48, 0x29]), (0x1F118, [0x28, 0x49, 0x29]), (0x1F119, [0x28, 0x4A, 0x29]),
  (0x1F11A, [0x28, 0x4B, 0x29]), (0x1F11B, [0x28, 0x4C, 0x29]), (0x1F11C, [0x28, 0x4D, 0x29]),
  (0x1F11D, [0x28, 0x4E, 0x29]), (0x1F11E, [0x28, 0x4F, 0x29]), (0x1F11F, [0x28, 0x50, 0x29]),
  (0x1F120, [0x28, 0x51, 0x29]), (0x1F121, [0x28, 0x52, 0x29]), (0x1F122, [0x28, 0x53, 0x29]),
  (0x1F123, [0x28, 0x54, 0x29]), (0x1F124, [0x28, 0x55, 0x29]), (0x1F125, [0x28, 0x56, 0x29]),
  (0x1F126, [0x28, 0x57, 0x29]), (0x1F127, [0x28, 0x58, 0x29]), (0x1F128, [0x28, 0x59, 0x29]),
  (0x1F129, [0x28, 0x5A, 0x29]), (0x1F12A, [0x3014, 0x53, 0x3015]), (0x1F12B, [0x43]),
  (0x1F12C, [0x52]), (0x1F12D, [0x43, 0x44]), (0x1F12E, [0x57, 0x5A]), (0x1F130, [0x41]),
  (0x1F131, [0x42]), (0x1F132, [0x43]), (0x1F133, [0x44]), (0x1F134, [0x45]), (0x1F135, [0x46]),
  (0x1F136, [0x47]), (0x1F137, [0x48]), (0x1F138, [0x49]), (0x1F139, [0x4A]), (0x1F13A, [0x4B]),
  (0x1F13B, [0x4C]), (0x1F13C, [0x4D]), (0x1F13D, [0x4E]), (0x1F13E, [0x4F]), (0x1F13F, [0x50]),
  (0x1F140, [0x51]), (0x1F141, [0x52]), (0x1F142, [0x53]), (0x1F143, [0x54]), (0x1F144, [0x55]),
  (0x1F145, [0x56]), (0x1F146, [0x57]), (0x1F147, [0x58]), (0x1F148, [0x59]), (0x1F149, [0x5A]),
  (0x1F14A, [0x48, 0x56]), (0x1F14B, [0x4D, 0x56]), (0x1F14C, [0x53, 0x44]),
  (0x1F14D, [0x53, 0x53]), (0x1F14E, [0x50, 0x50, 0x56]), (0x1F14F, [0x57, 0x43]),
  (0x1F16A, [0x4D, 0x43]), (0x1F16B, [0x4D, 0x44]), (0x1F16C, [0x4D, 0x52]),
  (0x1F190, [0x44, 0x4A])]

/-- Row `0x1f2`. -/
def row1F2 : List (Nat × List Nat) := [
  (0x1F200, [0x307B, 0x304B]), (0x1F201, [0x30B3, 0x30B3]), (0x1F202, [0x30B5]),
  (0x1F210, [0x624B]), (0x1F211, [0x5B57]), (0x1F212, [0x53CC]), (0x1F213, [0x30C6, 0x3099]),
  (0x1F214, [0x4E8C]), (0x1F215, [0x591A]), (0x1F216, [0x89E3]), (0x1F217, [0x5929]),
  (0x1F218, [0x4EA4]), (0x1F219, [0x6620]), (0x1F21A, [0x7121]), (0x1F21B, [0x6599]),
  (0x1F21C, [0x524D]), (0x1F21D, [0x5F8C]), (0x1F21E, [0x518D]), (0x1F21F, [0x65B0]),
  (0x1F220, [0x521D]), (0x1F221, [0x7D42]), (0x1F222, [0x751F]), (0x1F223, [0x8CA9]),
  (0x1F224, [0x58F0]), (0x1F225, [0x5439]), (0x1F226, [0x6F14]), (0x1F227, [0x6295]),
  (0x1F228, [0x6355]), (0x1F229, [0x4E00]), (0x1F22A, [0x4E09]), (0x1F22B, [0x904A]),
  (0x1F22C, [0x5DE6]), (0x1F22D, [0x4E2D]), (0x1F22E, [0x53F3]), (0x1F22F, [0x6307]),
  (0x1F230, [0x8D70]), (0x1F231, [0x6253]), (0x1F232, [0x7981]), (0x1F233, [0x7A7A]),
  (0x1F234, [0x5408]), (0x1F235, [0x6E80]), (0x1F236, [0x6709]), (0x1F237, [0x6708]),
  (0x1F238, [0x7533]), (0x1F239, [0x5272]), (0x1F23A, [0x55B6]), (0x1F23B, [0x914D]),
  (0x1F240, [0x3014, 0x672C, 0x3015]), (0x1F241, [0x3014, 0x4E09, 0x3015]),
  (0x1F242, [0x3014, 0x4E8C, 0x3015]), (0x1F243, [0x3014, 0x5B89, 0x3015]),
  (0x1F244, [0x3014, 0x70B9, 0x3015]), (0x1F245, [0x3014, 0x6253, 0x3015]),
  (0x1F246, [0x3014, 0x76D7, 0x3015]), (0x1F247, [0x3014, 0x52DD, 0x3015]),
  (0x1F248, [0x3014, 0x6557, 0x3015]), (0x1F250, [0x5F97]), (0x1F251, [0x53EF])]

/-- Row `0x1fb`. -/
def row1FB : List (Nat × List Nat) := [
  (0x1FBF0, [0x30]), (0x1FBF1, [0x31]), (0x1FBF2, [0x32]), (0x1FBF3, [0x33]), (0x1FBF4, [0x34]),
  (0x1FBF5, [0x35]), (0x1FBF6, [0x36]), (0x1FBF7, [0x37]), (0x1FBF8, [0x38]), (0x1FBF9, [0x39])]

/-- Row `0x2f8`. -/
def row2F8 : List (Nat × List Nat) := [
  (0x2F800, [0x4E3D]), (0x2F801, [0x4E38]), (0x2F802, [0x4E41]), (0x2F803, [0x20122]),
  (0x2F804, [0x4F60]), (0x2F805, [0x4FAE]), (0x2F806, [0x4FBB]), (0x2F807, [0x5002]),
  (0x2F808, [0x507A]), (0x2F809, [0x5099]), (0x2F80A, [0x50E7]), (0x2F80B, [0x50CF]),
  (0x2F80C, [0x349E]), (0x2F80D, [0x2063A]), (0x2F80E, [0x514D]), (0x2F80F, [0x5154]),
  (0x2F810, [0x5164]), (0x2F811, [0x5177]), (0x2F812, [0x2051C]), (0x2F813, [0x34B9]),
  (0x2F814, [0x5167]), (0x2F815, [0x518D]), (0x2F816, [0x2054B]), (0x2F817, [0x5197]),
  (0x2F818, [0x51A4]), (0x2F819, [0x4ECC]), (0x2F81A, [0x51AC]), (0x2F81B, [0x51B5]),
  (0x2F81C, [0x291DF]), (0x2F81D, [0x51F5]), (0x2F81E, [0x5203]), (0x2F81F, [0x34DF]),
  (0x2F820, [0x523B]), (0x2F821, [0x5246]), (0x2F822, [0x5272]), (0x2F823, [0x5277]),
  (0x2F824, [0x3515]), (0x2F825, [0x52C7]), (0x2F826, [0x52C9]), (0x2F827, [0x52E4]),
  (0x2F828, [0x52FA]), (0x2F829, [0x5305]), (0x2F82A, [0x5306]), (0x2F82B, [0x5317]),
  (0x2F82C, [0x5349]), (0x2F82D, [0x5351]), (0x2F82E, [0x535A]), (0x2F82F, [0x5373]),
  (0x2F830, [0x537D]), (0x2F831, [0x537F]), (0x2F832, [0x537F]), (0x2F833, [0x537F]),
  (0x2F834, [0x20A2C]), (0x2F835, [0x7070]), (0x2F836, [0x53CA]), (0x2F837, [0x53DF]),
  (0x2F838, [0x20B63]), (0x2F839, [0x53EB]), (0x2F83A, [0x53F1]), (0x2F83B, [0x5406]),
  (0x2F83C, [0x549E]), (0x2F83D, [0x5438]), (0x2F83E, [0x5448]), (0x2F83F, [0x5468]),
  (0x2F840, [0x54A2]), (0x2F841, [0x54F6]), (0x2F842, [0x5510]), (0x2F843, [0x5553]),
  (0x2F844, [0x5563]), (0x2F845, [0x5584]), (0x2F846, [0x5584]), (0x2F847, [0x5599]),
  (0x2F848, [0x55AB]), (0x2F849, [0x55B3]), (0x2F84A, [0x55C2]), (0x2F84B, [0x5716]),
  (0x2F84C, [0x5606]), (0x2F84D, [0x5717]), (0x2F84E, [0x5651]), (0x2F84F, [0x5674]),
  (0x2F850, [0x5207]), (0x2F851, [0x58EE]), (0x2F852, [0x57CE]), (0x2F853, [0x57F4]),
  (0x2F854, [0x580D]), (0x2F855, [0x578B]), (0x2F856, [0x5832]), (0x2F857, [0x5831]),
  (0x2F858, [0x58AC]), (0x2F859, [0x214E4]), (0x2F85A, [0x58F2]), (0x2F85B, [0x58F7]),
  (0x2F85C, [0x5906]), (0x2F85D, [0x591A]), (0x2F85E, [0x5922]), (0x2F85F, [0x5962]),
  (0x2F860, [0x216A8]), (0x2F861, [0x216EA]), (0x2F862, [0x59EC]), (0x2F863, [0x5A1B]),
  (0x2F864, [0x5A27]), (0x2F865, [0x59D8]), (0x2F866, [0x5A66]), (0x2F867, [0x36EE]),
  (0x2F868, [0x36FC]), (0x2F869, [0x5B08]), (0x2F86A, [0x5B3E]), (0x2F86B, [0x5B3E]),
  (0x2F86C, [0x219C8]), (0x2F86D, [0x5BC3]), (0x2F86E, [0x5BD8]), (0x2F86F, [0x5BE7]),
  (0x2F870, [0x5BF3]), (0x2F871, [0x21B18]), (0x2F872, [0x5BFF]), (0x2F873, [0x5C06]),
  (0x2F874, [0x5F53]), (0x2F875, [0x5C22]), (0x2F876, [0x3781]), (0x2F877, [0x5C60]),
  (0x2F878, [0x5C6E]), (0x2F879, [0x5CC0]), (0x2F87A, [0x5C8D]), (0x2F87B, [0x21DE4]),
  (0x2F87C, [0x5D43]), (0x2F87D, [0x21DE6]), (0x2F87E, [0x5D6E]), (0x2F87F, [0x5D6B]),
  (0x2F880, [0x5D7C]), (0x2F881, [0x5DE1]), (0x2F882, [0x5DE2]), (0x2F883, [0x382F]),
  (0x2F884, [0x5DFD]), (0x2F885, [0x5E28]), (0x2F886, [0x5E3D]), (0x2F887, [0x5E69]),
  (0x2F888, [0x3862]), (0x2F889, [0x22183]), (0x2F88A, [0x387C]), (0x2F88B, [0x5EB0]),
  (0x2F88C, [0x5EB3]), (0x2F88D, [0x5EB6]), (0x2F88E, [0x5ECA]), (0x2F88F, [0x2A392]),
  (0x2F890, [0x5EFE]), (0x2F891, [0x22331]), (0x2F892, [0x22331]), (0x2F893, [0x8201]),
  (0x2F894, [0x5F22]), (0x2F895, [0x5F22]), (0x2F896, [0x38C7]), (0x2F897, [0x232B8]),
  (0x2F898, [0x261DA]), (0x2F899, [0x5F62]), (0x2F89A, [0x5F6B]), (0x2F89B, [0x38E3]),
  (0x2F89C, [0x5F9A]), (0x2F89D, [0x5FCD]), (0x2F89E, [0x5FD7]), (0x2F89F, [0x5FF9]),
  (0x2F8A0, [0x6081]), (0x2F8A1, [0x393A]), (0x2F8A2, [0x391C]), (0x2F8A3, [0x6094]),
  (0x2F8A4, [0x226D4]), (0x2F8A5, [0x60C7]), (0x2F8A6, [0x6148]), (0x2F8A7, [0x614C]),
  (0x2F8A8, [0x614E]), (0x2F8A9, [0x614C]), (0x2F8AA, [0x617A]), (0x2F8AB, [0x618E]),
  (0x2F8AC, [0x61B2]), (0x2F8AD, [0x61A4]), (0x2F8AE, [0x61AF]), (0x2F8AF, [0x61DE]),
  (0x2F8B0, [0x61F2]), (0x2F8B1, [0x61F6]), (0x2F8B2, [0x6210]), (0x2F8B3, [0x621B]),
  (0x2F8B4, [0x625D]), (0x2F8B5, [0x62B1]), (0x2F8B6, [0x62D4]), (0x2F8B7, [0x6350]),
  (0x2F8B8, [0x22B0C]), (0x2F8B9, [0x633D]), (0x2F8BA, [0x62FC]), (0x2F8BB, [0x6368]),
  (0x2F8BC, [0x6383]), (0x2F8BD, [0x63E4]), (0x2F8BE, [0x22BF1]), (0x2F8BF, [0x6422]),
  (0x2F8C0, [0x63C5]), (0x2F8C1, [0x63A9]), (0x2F8C2, [0x3A2E]), (0x2F8C3, [0x6469]),
  (0x2F8C4, [0x647E]), (0x2F8C5, [0x649D]), (0x2F8C6, [0x6477]), (0x2F8C7, [0x3A6C]),
  (0x2F8C8, [0x654F]), (0x2F8C9, [0x656C]), (0x2F8CA, [0x2300A]), (0x2F8CB, [0x65E3]),
  (0x2F8CC, [0x66F8]), (0x2F8CD, [0x6649]), (0x2F8CE, [0x3B19]), (0x2F8CF, [0x6691]),
  (0x2F8D0, [0x3B08]), (0x2F8D1, [0x3AE4]), (0x2F8D2, [0x5192]), (0x2F8D3, [0x5195]),
  (0x2F8D4, [0x6700]), (0x2F8D5, [0x669C]), (0x2F8D6, [0x80AD]), (0x2F8D7, [0x43D9]),
  (0x2F8D8, [0x6717]), (0x2F8D9, [0x671B]), (0x2F8DA, [0x6721]), (0x2F8DB, [0x675E]),
  (0x2F8DC, [0x6753]), (0x2F8DD, [0x233C3]), (0x2F8DE, [0x3B49]), (0x2F8DF, [0x67FA]),
  (0x2F8E0, [0x6785]), (0x2F8E1, [0x6852]), (0x2F8E2, [0x6885]), (0x2F8E3, [0x2346D]),
  (0x2F8E4, [0x688E]), (0x2F8E5, [0x681F]), (0x2F8E6, [0x6914]), (0x2F8E7, [0x3B9D]),
  (0x2F8E8, [0x6942]), (0x2F8E9, [0x69A3]), (0x2F8EA, [0x69EA]), (0x2F8EB, [0x6AA8]),
  (0x2F8EC, [0x236A3]), (0x2F8ED, [0x6ADB]), (0x2F8EE, [0x3C18]), (0x2F8EF, [0x6B21]),
  (0x2F8F0, [0x238A7]), (0x2F8F1, [0x6B54]), (0x2F8F2, [0x3C4E]), (0x2F8F3, [0x6B72]),
  (0x2F8F4, [0x6B9F]), (0x2F8F5, [0x6BBA]), (0x2F8F6, [0x6BBB]), (0x2F8F7, [0x23A8D]),
  (0x2F8F8, [0x21D0B]), (0x2F8F9, [0x23AFA]), (0x2F8FA, [0x6C4E]), (0x2F8FB, [0x23CBC]),
  (0x2F8FC, [0x6CBF]), (0x2F8FD, [0x6CCD]), (0x2F8FE, [0x6C67]), (0x2F8FF, [0x6D16])]

/-- Row `0x2f9`. -/
def row2F9 : List (Nat × List Nat) := [
  (0x2F900, [0x6D3E]), (0x2F901, [0x6D77]), (0x2F902, [0x6D41]), (0x2F903, [0x6D69]),
  (0x2F904, [0x6D78]), (0x2F905, [0x6D85]), (0x2F906, [0x23D1E]), (0x2F907, [0x6D34]),
  (0x2F908, [0x6E2F]), (0x2F909, [0x6E6E]), (0x2F90A, [0x3D33]), (0x2F90B, [0x6ECB]),
  (0x2F90C, [0x6EC7]), (0x2F90D, [0x23ED1]), (0x2F90E, [0x6DF9]), (0x2F90F, [0x6F6E]),
  (0x2F910, [0x23F5E]), (0x2F911, [0x23F8E]), (0x2F912, [0x6FC6]), (0x2F913, [0x7039]),
  (0x2F914, [0x701E]), (0x2F915, [0x701B]), (0x2F916, [0x3D96]), (0x2F917, [0x704A]),
  (0x2F918, [0x707D]), (0x2F919, [0x7077]), (0x2F91A, [0x70AD]), (0x2F91B, [0x20525]),
  (0x2F91C, [0x7145]), (0x2F91D, [0x24263]), (0x2F91E, [0x719C]), (0x2F91F, [0x243AB]),
  (0x2F920, [0x7228]), (0x2F921, [0x7235]), (0x2F922, [0x7250]), (0x2F923, [0x24608]),
  (0x2F924, [0x7280]), (0x2F925, [0x7295]), (0x2F926, [0x24735]), (0x2F927, [0x24814]),
  (0x2F928, [0x737A]), (0x2F929, [0x738B]), (0x2F92A, [0x3EAC]), (0x2F92B, [0x73A5]),
  (0x2F92C, [0x3EB8]), (0x2F92D, [0x3EB8]), (0x2F92E, [0x7447]), (0x2F92F, [0x745C]),
  (0x2F930, [0x7471]), (0x2F931, [0x7485]), (0x2F932, [0x74CA]), (0x2F933, [0x3F1B]),
  (0x2F934, [0x7524]), (0x2F935, [0x24C36]), (0x2F936, [0x753E]), (0x2F937, [0x24C92]),
  (0x2F938, [0x7570]), (0x2F939, [0x2219F]), (0x2F93A, [0x7610]), (0x2F93B, [0x24FA1]),
  (0x2F93C, [0x24FB8]), (0x2F93D, [0x25044]), (0x2F93E, [0x3FFC]), (0x2F93F, [0x4008]),
  (0x2F940, [0x76F4]), (0x2F941, [0x250F3]), (0x2F942, [0x250F2]), (0x2F943, [0x25119]),
  (0x2F944, [0x25133]), (0x2F945, [0x771E]), (0x2F946, [0x771F]), (0x2F947, [0x771F]),
  (0x2F948, [0x774A]), (0x2F949, [0x4039]), (0x2F94A, [0x778B]), (0x2F94B, [0x4046]),
  (0x2F94C, [0x4096]), (0x2F94D, [0x2541D]), (0x2F94E, [0x784E]), (0x2F94F, [0x788C]),
  (0x2F950, [0x78CC]), (0x2F951, [0x40E3]), (0x2F952, [0x25626]), (0x2F953, [0x7956]),
  (0x2F954, [0x2569A]), (0x2F955, [0x256C5]), (0x2F956, [0x798F]), (0x2F957, [0x79EB]),
  (0x2F958, [0x412F]), (0x2F959, [0x7A40]), (0x2F95A, [0x7A4A]), (0x2F95B, [0x7A4F]),
  (0x2F95C, [0x2597C]), (0x2F95D, [0x25AA7]), (0x2F95E, [0x25AA7]), (0x2F95F, [0x7AEE]),
  (0x2F960, [0x4202]), (0x2F961, [0x25BAB]), (0x2F962, [0x7BC6]), (0x2F963, [0x7BC9]),
  (0x2F964, [0x4227]), (0x2F965, [0x25C80]), (0x2F966, [0x7CD2]), (0x2F967, [0x42A0]),
  (0x2F968, [0x7CE8]), (0x2F969, [0x7CE3]), (0x2F96A, [0x7D00]), (0x2F96B, [0x25F86]),
  (0x2F96C, [0x7D63]), (0x2F96D, [0x4301]), (0x2F96E, [0x7DC7]), (0x2F96F, [0x7E02]),
  (0x2F970, [0x7E45]), (0x2F971, [0x4334]), (0x2F972, [0x26228]), (0x2F973, [0x26247]),
  (0x2F974, [0x4359]), (0x2F975, [0x262D9]), (0x2F976, [0x7F7A]), (0x2F977, [0x2633E]),
  (0x2F978, [0x7F95]), (0x2F979, [0x7FFA]), (0x2F97A, [0x8005]), (0x2F97B, [0x264DA]),
  (0x2F97C, [0x26523]), (0x2F97D, [0x8060]), (0x2F97E, [0x265A8]), (0x2F97F, [0x8070]),
  (0x2F980, [0x2335F]), (0x2F981, [0x43D5]), (0x2F982, [0x80B2]), (0x2F983, [0x8103]),
  (0x2F984, [0x440B]), (0x2F985, [0x813E]), (0x2F986, [0x5AB5]), (0x2F987, [0x267A7]),
  (0x2F988, [0x267B5]), (0x2F989, [0x23393]), (0x2F98A, [0x2339C]), (0x2F98B, [0x8201]),
  (0x2F98C, [0x8204]), (0x2F98D, [0x8F9E]), (0x2F98E, [0x446B]), (0x2F98F, [0x8291]),
  (0x2F990, [0x828B]), (0x2F991, [0x829D]), (0x2F992, [0x52B3]), (0x2F993, [0x82B1]),
  (0x2F994, [0x82B3]), (0x2F995, [0x82BD]), (0x2F996, [0x82E6]), (0x2F997, [0x26B3C]),
  (0x2F998, [0x82E5]), (0x2F999, [0x831D]), (0x2F99A, [0x8363]), (0x2F99B, [0x83AD]),
  (0x2F99C, [0x8323]), (0x2F99D, [0x83BD]), (0x2F99E, [0x83E7]), (0x2F99F, [0x8457]),
  (0x2F9A0, [0x8353]), (0x2F9A1, [0x83CA]), (0x2F9A2, [0x83CC]), (0x2F9A3, [0x83DC]),
  (0x2F9A4, [0x26C36]), (0x2F9A5, [0x26D6B]), (0x2F9A6, [0x26CD5]), (0x2F9A7, [0x452B]),
  (0x2F9A8, [0x84F1]), (0x2F9A9, [0x84F3]), (0x2F9AA, [0x8516]), (0x2F9AB, [0x273CA]),
  (0x2F9AC, [0x8564]), (0x2F9AD, [0x26F2C]), (0x2F9AE, [0x455D]), (0x2F9AF, [0x4561]),
  (0x2F9B0, [0x26FB1]), (0x2F9B1, [0x270D2]), (0x2F9B2, [0x456B]), (0x2F9B3, [0x8650]),
  (0x2F9B4, [0x865C]), (0x2F9B5, [0x8667]), (0x2F9B6, [0x8669]), (0x2F9B7, [0x86A9]),
  (0x2F9B8, [0x8688]), (0x2F9B9, [0x870E]), (0x2F9BA, [0x86E2]), (0x2F9BB, [0x8779]),
  (0x2F9BC, [0x8728]), (0x2F9BD, [0x876B]), (0x2F9BE, [0x8786]), (0x2F9BF, [0x45D7]),
  (0x2F9C0, [0x87E1]), (0x2F9C1, [0x8801]), (0x2F9C2, [0x45F9]), (0x2F9C3, [0x8860]),
  (0x2F9C4, [0x8863]), (0x2F9C5, [0x27667]), (0x2F9C6, [0x88D7]), (0x2F9C7, [0x88DE]),
  (0x2F9C8, [0x4635]), (0x2F9C9, [0x88FA]), (0x2F9CA, [0x34BB]), (0x2F9CB, [0x278AE]),
  (0x2F9CC, [0x27966]), (0x2F9CD, [0x46BE]), (0x2F9CE, [0x46C7]), (0x2F9CF, [0x8AA0]),
  (0x2F9D0, [0x8AED]), (0x2F9D1, [0x8B8A]), (0x2F9D2, [0x8C55]), (0x2F9D3, [0x27CA8]),
  (0x2F9D4, [0x8CAB]), (0x2F9D5, [0x8CC1]), (0x2F9D6, [0x8D1B]), (0x2F9D7, [0x8D77]),
  (0x2F9D8, [0x27F2F]), (0x2F9D9, [0x20804]), (0x2F9DA, [0x8DCB]), (0x2F9DB, [0x8DBC]),
  (0x2F9DC, [0x8DF0]), (0x2F9DD, [0x208DE]), (0x2F9DE, [0x8ED4]), (0x2F9DF, [0x8F38]),
  (0x2F9E0, [0x285D2]), (0x2F9E1, [0x285ED]), (0x2F9E2, [0x9094]), (0x2F9E3, [0x90F1]),
  (0x2F9E4, [0x9111]), (0x2F9E5, [0x2872E]), (0x2F9E6, [0x911B]), (0x2F9E7, [0x9238]),
  (0x2F9E8, [0x92D7]), (0x2F9E9, [0x92D8]), (0x2F9EA, [0x927C]), (0x2F9EB, [0x93F9]),
  (0x2F9EC, [0x9415]), (0x2F9ED, [0x28BFA]), (0x2F9EE, [0x958B]), (0x2F9EF, [0x4995]),
  (0x2F9F0, [0x95B7]), (0x2F9F1, [0x28D77]), (0x2F9F2, [0x49E6]), (0x2F9F3, [0x96C3]),
  (0x2F9F4, [0x5DB2]), (0x2F9F5, [0x9723]), (0x2F9F6, [0x29145]), (0x2F9F7, [0x2921A]),
  (0x2F9F8, [0x4A6E]), (0x2F9F9, [0x4A76]), (0x2F9FA, [0x97E0]), (0x2F9FB, [0x2940A]),
  (0x2F9FC, [0x4AB2]), (0x2F9FD, [0x29496]), (0x2F9FE, [0x980B]), (0x2F9FF, [0x980B])]

/-- Row `0x2fa`. -/
def row2FA : List (Nat × List Nat) := [
  (0x2FA00, [0x9829]), (0x2FA01, [0x295B6]), (0x2FA02, [0x98E2]), (0x2FA03, [0x4B33]),
  (0x2FA04, [0x9929]), (0x2FA05, [0x99A7]), (0x2FA06, [0x99C2]), (0x2FA07, [0x99FE]),
  (0x2FA08, [0x4BCE]), (0x2FA09, [0x29B30]), (0x2FA0A, [0x9B12]), (0x2FA0B, [0x9C40]),
  (0x2FA0C, [0x9CFD]), (0x2FA0D, [0x4CCE]), (0x2FA0E, [0x4CED]), (0x2FA0F, [0x9D67]),
  (0x2FA10, [0x2A0CE]), (0x2FA11, [0x4CF8]), (0x2FA12, [0x2A105]), (0x2FA13, [0x2A20E]),
  (0x2FA14, [0x2A291]), (0x2FA15, [0x9EBB]), (0x2FA16, [0x4D56]), (0x2FA17, [0x9EF9]),
  (0x2FA18, [0x9EFE]), (0x2FA19, [0x9F05]), (0x2FA1A, [0x9F0F]), (0x2FA1B, [0x9F16]),
  (0x2FA1C, [0x9F3B]), (0x2FA1D, [0x2A600])]

/-- The rows of this group by number. -/
def rows : List (Nat × List (Nat × List Nat)) := [
  (0x107, row107), (0x110, row110), (0x111, row111), (0x113, row113), (0x114, row114),
  (0x115, row115), (0x119, row119), (0x1D1, row1D1), (0x1D4, row1D4), (0x1D5, row1D5),
  (0x1D6, row1D6), (0x1D7, row1D7), (0x1EE, row1EE), (0x1F1, row1F1), (0x1F2, row1F2),
  (0x1FB, row1FB), (0x2F8, row2F8), (0x2F9, row2F9), (0x2FA, row2FA)]

end RestBindings.Unicode.Decomposition.Supplementary
